import QaRunner.Domain.Event
import QaRunner.Domain.Evidence
import QaRunner.Domain.Retry

/-! The Attempt aggregate: its checks, its commands, and what each command changes. -/
namespace QaRunner
open Guarded

inductive AttemptState where
  | startCommitted
  | provisioning
  | running
  | uploading
  | passed
  | testFailed
  | infraFailed
  | cancelled
  | attemptUnknown
  deriving DecidableEq, Repr

def AttemptState.value : AttemptState → String
  | .startCommitted => "start_committed"
  | .provisioning => "provisioning"
  | .running => "running"
  | .uploading => "uploading"
  | .passed => "passed"
  | .testFailed => "test_failed"
  | .infraFailed => "infra_failed"
  | .cancelled => "cancelled"
  | .attemptUnknown => "attempt_unknown"

def AttemptState.evidenceTerminal : AttemptState → Bool
  | .passed | .testFailed | .infraFailed | .cancelled => true
  | _ => false

def AttemptState.terminal : AttemptState → Bool
  | .attemptUnknown => true
  | s => s.evidenceTerminal

def AttemptState.allowedTransitions : AttemptState → List AttemptState
  | .startCommitted => [.provisioning]
  | .provisioning => [.running, .uploading]
  | .running => [.uploading]
  | _ => []

/-- The state with the same name as an evidence outcome. -/
def EvidenceOutcome.attemptState : EvidenceOutcome → AttemptState
  | .passed => .passed
  | .testFailed => .testFailed
  | .infraFailed => .infraFailed
  | .cancelled => .cancelled

structure Attempt.Fields where
  id : Str
  runId : Str
  attemptNo : ℤ
  fence : ℤ
  assignmentId : Str
  worker : WorkerRef
  specDigest : Digest
  startCommitKey : Str
  events : List AttemptEvent
  evidence : Option EvidenceManifest
  unknownObservation : Option UnknownObservation
  adjudications : List UnknownAdjudication
  state : AttemptState
  version : ℤ
  retryProvenance : Option RetryProvenance := none
  deriving DecidableEq

def invalidAttemptIf (c : Prop) [Decidable c] (field reason : String) : Result Unit :=
  invalidIf c "attempt" field reason

theorem invalidAttemptIf_eq_ok {c : Prop} [Decidable c] {field reason : String} {u : Unit} :
    invalidAttemptIf c field reason = .ok u ↔ ¬ c := raiseIf_eq_ok

namespace Attempt.Fields

def validateEvidence (a : Attempt.Fields) : Result Unit := do
  invalidAttemptIf (a.state.evidenceTerminal = true ∧ a.evidence.isNone) "evidence"
    "required_for_terminal"
  whenSome a.evidence fun evidence => do
    invalidAttemptIf (a.state.evidenceTerminal = false) "evidence" "forbidden_for_state"
    invalidAttemptIf (a.state ≠ evidence.outcome.attemptState) "evidence" "outcome_mismatch"

def validateUnknown (a : Attempt.Fields) : Result Unit := do
  invalidAttemptIf (a.state = .attemptUnknown ∧ a.unknownObservation.isNone) "unknown_observation"
    "required_for_unknown"
  invalidAttemptIf (a.state ≠ .attemptUnknown ∧ a.unknownObservation.isSome) "unknown_observation"
    "only_allowed_for_unknown"

def validateRetryProvenance (a : Attempt.Fields) : Result Unit := do
  invalidAttemptIf (1 < a.attemptNo ∧ a.retryProvenance.isNone) "retry_provenance"
    "required_for_retry_attempt"
  whenSome a.retryProvenance fun provenance => do
    invalidAttemptIf (a.attemptNo < 2) "retry_provenance" "not_allowed_for_first_attempt"
    invalidAttemptIf (provenance.sourceAttemptId = a.id) "retry_provenance" "source_is_self"

/-- Every record supersedes the one before it. -/
def validateSupersession (expected : Option Str) : List UnknownAdjudication → Result Unit
  | [] => .ok ()
  | record :: records => do
    invalidAttemptIf (record.supersedesAdjudicationId ≠ expected) "adjudications"
      "supersession_mismatch"
    validateSupersession (some record.id) records

def validateAdjudicationHistory (a : Attempt.Fields) : Result Unit := do
  invalidAttemptIf (a.adjudications ≠ [] ∧ a.state ≠ .attemptUnknown) "adjudications"
    "only_allowed_for_unknown"
  invalidAttemptIf (∃ record ∈ a.adjudications, record.attemptId ≠ a.id) "adjudications"
    "attempt_mismatch"
  let observationDigest ← match a.unknownObservation with
    | some observation => some <$> observation.digest
    | none => pure none
  invalidAttemptIf (∃ record ∈ a.adjudications,
    some record.unknownObservationDigest ≠ observationDigest) "adjudications" "observation_mismatch"
  invalidAttemptIf (∃ observation ∈ a.unknownObservation, ∃ record ∈ a.adjudications,
    record.occurredAt < observation.recordedAt) "adjudications" "before_unknown"
  invalidAttemptIf (¬ (a.adjudications.map (·.id)).Nodup) "adjudications" "duplicate_id"
  validateSupersession none a.adjudications
  invalidAttemptIf (¬ a.adjudications.IsChain fun previous record =>
    ¬ record.occurredAt < previous.occurredAt) "adjudications" "occurred_at_not_monotonic"
  invalidAttemptIf (∃ record ∈ a.adjudications,
    record.decision = .markCompletedFromVerifiedEvidence) "adjudications"
    "verified_evidence_adjudication_not_supported"

def postInit (a : Attempt.Fields) : Result Unit := do
  each [("id", a.id), ("run_id", a.runId), ("assignment_id", a.assignmentId),
    ("start_commit_key", a.startCommitKey)] fun f =>
    invalidAttemptIf (isBlank f.2) f.1 "empty"
  each [("attempt_no", a.attemptNo), ("fence", a.fence)] fun f =>
    invalidAttemptIf (f.2 < 1) f.1 "not_positive"
  invalidAttemptIf (a.version < 0) "version" "invalid"
  a.validateEvidence
  a.validateUnknown
  a.validateRetryProvenance
  a.validateAdjudicationHistory

end Attempt.Fields

/-- Immutable record of one committed execution attempt. -/
structure Attempt extends Attempt.Fields where
  accepted : toFields.postInit = .ok ()
  deriving DecidableEq

def Attempt.new : Attempt.Fields → Result Attempt := construct Attempt.Fields.postInit Attempt.mk

theorem Attempt.new_eq_ok {f : Attempt.Fields} {a : Attempt} :
    Attempt.new f = .ok a ↔ a.toFields = f := by
  rw [Attempt.new, construct_eq_ok]
  constructor
  · rintro ⟨_, rfl⟩
    rfl
  · rintro rfl
    exact ⟨a.accepted, rfl⟩

/-- What a Worker and the platform report when evidence is finalized. -/
structure EvidenceReport where
  proposal : EvidenceProposal
  trustedExit : Option TrustedExitFacts
  caseSummary : Option ValidatedCaseSummary
  artifacts : List VerifiedArtifact
  requirements : EvidenceRequirements
  authority : AttemptAuthority
  worker : WorkerRef
  fence : ℤ

/-- Result of first evidence finalize or an exact replay. -/
structure FinalizeEvidenceResult where
  attempt : Attempt
  evidence : EvidenceManifest
  replayed : Bool

namespace Attempt

/-- Create the Attempt only after start commit is durable. -/
def create (attemptId runId : Str) (attemptNo fence : ℤ) (assignmentId : Str)
    (worker : WorkerRef) (specDigest : Digest) (startCommitKey : Str)
    (retryProvenance : Option RetryProvenance) : Result Attempt :=
  Attempt.new {
    id := attemptId
    runId, attemptNo, fence, assignmentId, worker, specDigest, startCommitKey, retryProvenance
    events := []
    evidence := none
    unknownObservation := none
    adjudications := []
    state := .startCommitted
    version := 0 }

def invalidTransitionIf (c : Prop) [Decidable c] (a : Attempt) (target : AttemptState)
    (expectedVersion : ℤ) : Result Unit :=
  raiseIf c (.invalidTransition "attempt" a.id a.state.value target.value a.version expectedVersion)

/-- Reject stale commands or transitions that skip execution phases. -/
def transition (a : Attempt) (target : AttemptState) (expectedVersion : ℤ) : Result Attempt := do
  ensureExpectedVersion "attempt" a.id a.version expectedVersion
  a.invalidTransitionIf (target ∉ a.state.allowedTransitions) target expectedVersion
  Attempt.new { a.toFields with
    state := target
    version := a.version + 1 }

/-- Reject stale Attempt identity using control-plane authoritative state. -/
def ensureAuthority (a : Attempt) (authority : AttemptAuthority) (worker : WorkerRef)
    (fence : ℤ) : Result Unit := do
  raiseIf (a.fence ≠ authority.currentFence) (.staleFence a.id authority.currentFence a.fence)
  raiseIf (fence ≠ authority.currentFence) (.staleFence a.id authority.currentFence fence)
  raiseIf (a.worker ≠ authority.currentWorker)
    (.staleGeneration a.id authority.currentWorker.workerId authority.currentWorker.generation
      a.worker.workerId a.worker.generation)
  raiseIf (worker ≠ authority.currentWorker)
    (.staleGeneration a.id authority.currentWorker.workerId authority.currentWorker.generation
      worker.workerId worker.generation)

/-- Attach trusted review facts and enter the absorbing unknown state. -/
def markUnknown (a : Attempt) (observation : UnknownObservation) (authority : AttemptAuthority)
    (expectedVersion : ℤ) : Result Attempt := do
  a.ensureAuthority authority a.worker a.fence
  if ∃ stored ∈ a.unknownObservation, stored.id = observation.id then
    if a.unknownObservation = some observation then
      return a
    throw (.unknownObservationConflict a.id observation.id)
  ensureExpectedVersion "attempt" a.id a.version expectedVersion
  a.invalidTransitionIf (a.state ∉
    [AttemptState.startCommitted, .provisioning, .running, .uploading]) .attemptUnknown
    expectedVersion
  Attempt.new { a.toFields with
    state := .attemptUnknown
    unknownObservation := some observation
    version := a.version + 1 }

/-- The stored adjudication with the same id, if any. -/
def findAdjudication (a : Attempt) (adjudication : UnknownAdjudication) :
    Option UnknownAdjudication :=
  a.adjudications.find? fun record => record.id = adjudication.id

/-- Append a handling decision without rewriting the unknown Attempt. -/
def appendUnknownAdjudication (a : Attempt) (adjudication : UnknownAdjudication)
    (expectedVersion : ℤ) : Result Attempt := do
  if let some existing := a.findAdjudication adjudication then
    if existing = adjudication then
      return a
    throw (.adjudicationConflict a.id adjudication.id)
  ensureExpectedVersion "attempt" a.id a.version expectedVersion
  Attempt.new { a.toFields with
    adjudications := a.adjudications ++ [adjudication]
    version := a.version + 1 }

/-- The stored event with the same id or the same sequence number, if any. -/
def findEvent (a : Attempt) (event : AttemptEvent) : Option AttemptEvent :=
  a.events.find? fun candidate =>
    candidate.eventId = event.eventId ∨ candidate.eventSeq = event.eventSeq

/-- The sequence number a new event must carry. -/
def expectedNext (a : Attempt) : ℤ :=
  match a.events.getLast? with
  | some last => last.eventSeq + 1
  | none => 1

/-- Append a Worker event only for the Attempt's current fence. -/
def recordEvent (a : Attempt) (event : AttemptEvent) (authority : AttemptAuthority)
    (worker : WorkerRef) (fence expectedVersion : ℤ) : Result Attempt := do
  a.ensureAuthority authority worker fence
  if let some existing := a.findEvent event then
    if existing ≠ event then
      throw (.eventConflict a.id existing.eventId existing.eventSeq event.eventId event.eventSeq)
    return a
  ensureExpectedVersion "attempt" a.id a.version expectedVersion
  raiseIf (a.state.terminal = true) (.attemptEventRejected a.id "attempt_terminal")
  raiseIf (event.eventSeq ≠ a.expectedNext)
    (.eventSequenceGap a.id a.expectedNext event.eventSeq)
  Attempt.new { a.toFields with
    events := a.events ++ [event]
    version := a.version + 1 }

/-- The identity of an Attempt together with the facts to rebuild its evidence from. -/
def evidenceInput (a : Attempt) (trustedExit : Option TrustedExitFacts)
    (caseSummary : Option ValidatedCaseSummary) (artifacts : List VerifiedArtifact)
    (cancellationStop : Option TrustedCancellationStop) : EvidenceInput where
  attemptId := a.id
  runId := a.runId
  attemptNo := a.attemptNo
  assignmentId := a.assignmentId
  fence := a.fence
  worker := a.worker
  executionSpecDigest := a.specDigest
  trustedExit := trustedExit
  caseSummary := caseSummary
  artifacts := artifacts
  cancellationStop := cancellationStop

/-- The evidence a report rebuilds for an Attempt. -/
def rebuild (a : Attempt) (report : EvidenceReport)
    (cancellationStop : Option TrustedCancellationStop) : Result EvidenceManifest :=
  buildEvidenceManifest
    (a.evidenceInput report.trustedExit report.caseSummary report.artifacts cancellationStop)

/-- The required paths that are not among the artifacts, as the error lists them. -/
def missingPaths (requirements : EvidenceRequirements) (artifacts : List VerifiedArtifact) :
    List String :=
  Sorting.sortOn id (((requirements.requiredArtifactPaths.filter fun path =>
    path ∉ artifacts.map (·.path)).map (·.text)).dedup)

/-- The finalization both public entries share. -/
def finalizeWith (a : Attempt) (report : EvidenceReport)
    (cancellationStop : Option TrustedCancellationStop) (expectedVersion : ℤ) :
    Result FinalizeEvidenceResult := do
  a.ensureAuthority report.authority report.worker report.fence
  let candidate ← a.rebuild report cancellationStop
  if let some evidence := a.evidence then
    if evidence = candidate ∧ report.proposal.rootDigest = candidate.rootDigest then
      return ⟨a, evidence, true⟩
    throw (.evidenceConflict evidence.rootDigest.value
      (if evidence = candidate then report.proposal.rootDigest else candidate.rootDigest).value)
  ensureExpectedVersion "attempt" a.id a.version expectedVersion
  a.invalidTransitionIf (a.state ≠ .uploading) candidate.outcome.attemptState expectedVersion
  let missing := missingPaths report.requirements candidate.artifacts
  notReadyIf (missing ≠ [])
    ("required artifacts are missing: " ++ ", ".intercalate missing)
  raiseIf (report.proposal.rootDigest ≠ candidate.rootDigest)
    (.evidenceDigestMismatch report.proposal.rootDigest.value candidate.rootDigest.value)
  let finalized ← Attempt.new { a.toFields with
    evidence := some candidate
    state := candidate.outcome.attemptState
    version := a.version + 1 }
  return ⟨finalized, candidate, false⟩

/-- Finalize trusted evidence only for the current Worker and fence. -/
def finalizeEvidence (a : Attempt) (report : EvidenceReport) (expectedVersion : ℤ)
    (cancellationStop : Option TrustedCancellationStop := none) :
    Result FinalizeEvidenceResult := do
  notReadyIf cancellationStop.isSome "cancelled evidence requires Run-owned finalization"
  a.finalizeWith report none expectedVersion

/-- Finalize cancellation evidence only through the owning Run aggregate. -/
def finalizeCancellationEvidence (a : Attempt) (report : EvidenceReport)
    (cancellationStop : TrustedCancellationStop) (expectedVersion : ℤ) :
    Result FinalizeEvidenceResult :=
  a.finalizeWith report (some cancellationStop) expectedVersion

theorem checks (a : Attempt) : a.validateEvidence = .ok () ∧ a.validateUnknown = .ok () ∧
    a.validateRetryProvenance = .ok () ∧ a.validateAdjudicationHistory = .ok () := by
  have h := a.accepted
  simp only [Fields.postInit, then_eq_ok] at h
  exact h.2.2.2

/-- Only an unknown Attempt carries adjudications. -/
theorem unknown_of_adjudications {a : Attempt} (h : a.adjudications ≠ []) :
    a.state = .attemptUnknown := by
  have hchecks := a.checks.2.2.2
  simp only [Fields.validateAdjudicationHistory, then_eq_ok, invalidAttemptIf_eq_ok, not_and,
    not_not, ne_eq] at hchecks
  exact hchecks.1 h

/-- An unknown Attempt carries no evidence. -/
theorem evidence_of_unknown {a : Attempt} (h : a.state = .attemptUnknown) : a.evidence = none := by
  have hchecks := a.checks.1
  simp only [Fields.validateEvidence, then_eq_ok, whenSome_eq_ok, invalidAttemptIf_eq_ok, h] at hchecks
  cases hevidence : a.evidence with
  | none => rfl
  | some evidence => exact absurd rfl (hchecks.2 evidence hevidence).1

/-- Exactly the attempts after the first carry a retry provenance. -/
theorem retryProvenance_isSome (a : Attempt) : a.retryProvenance.isSome ↔ 1 < a.attemptNo := by
  have hchecks := a.checks.2.2.1
  simp only [Fields.validateRetryProvenance, then_eq_ok, invalidAttemptIf_eq_ok, whenSome_eq_ok,
    not_and, Bool.not_eq_true, Option.isNone_eq_false_iff, not_lt] at hchecks
  obtain ⟨hrequired, hpresent⟩ := hchecks
  constructor
  · intro h
    obtain ⟨provenance, hprovenance⟩ := Option.isSome_iff_exists.mp h
    have := (hpresent provenance hprovenance).1
    omega
  · exact hrequired

variable {a b : Attempt} {expectedVersion : ℤ}

theorem transition_eq_ok {target : AttemptState} :
    a.transition target expectedVersion = .ok b ↔
      (0 ≤ expectedVersion ∧ expectedVersion = a.version) ∧ target ∈ a.state.allowedTransitions ∧
        b.toFields = { a.toFields with
          state := target
          version := a.version + 1 } := by
  simp only [transition, invalidTransitionIf, then_eq_ok, ensureExpectedVersion_eq_ok,
    raiseIf_eq_ok, not_not, new_eq_ok]

theorem ensureAuthority_eq_ok {authority : AttemptAuthority} {worker : WorkerRef} {fence : ℤ}
    {u : Unit} : a.ensureAuthority authority worker fence = .ok u ↔
      a.fence = authority.currentFence ∧ fence = authority.currentFence ∧
        a.worker = authority.currentWorker ∧ worker = authority.currentWorker := by
  simp only [ensureAuthority, then_eq_ok, raiseIf_eq_ok, not_not, ne_eq]

theorem markUnknown_eq_ok {observation : UnknownObservation} {authority : AttemptAuthority} :
    a.markUnknown observation authority expectedVersion = .ok b ↔
      a.ensureAuthority authority a.worker a.fence = .ok () ∧
        (a.unknownObservation = some observation ∧ b = a ∨
          (¬ ∃ stored ∈ a.unknownObservation, stored.id = observation.id) ∧
            (0 ≤ expectedVersion ∧ expectedVersion = a.version) ∧
            a.state ∈ [AttemptState.startCommitted, .provisioning, .running, .uploading] ∧
            b.toFields = { a.toFields with
              state := .attemptUnknown
              unknownObservation := some observation
              version := a.version + 1 }) := by
  simp only [markUnknown, then_eq_ok]
  refine and_congr_right fun _ => ?_
  split
  · next hsame =>
    split
    · next heq =>
      rw [pure_eq_ok]
      constructor
      · rintro rfl
        exact Or.inl ⟨heq, rfl⟩
      · rintro (⟨_, rfl⟩ | ⟨hother, _⟩)
        · rfl
        · exact absurd hsame hother
    · next hne =>
      simp only [throw_bind, reduceCtorEq, hne, hsame, false_and, not_true_eq_false, or_false]
  · next hother =>
    have hne : a.unknownObservation ≠ some observation := fun h => hother ⟨observation, h, rfl⟩
    simp only [invalidTransitionIf, then_eq_ok, ensureExpectedVersion_eq_ok, raiseIf_eq_ok,
      not_not, new_eq_ok, hne, hother, false_and, false_or, not_false_eq_true, true_and]

theorem appendUnknownAdjudication_eq_ok {adjudication : UnknownAdjudication} :
    a.appendUnknownAdjudication adjudication expectedVersion = .ok b ↔
      a.findAdjudication adjudication = some adjudication ∧
          b = a ∨
        a.findAdjudication adjudication = none ∧
          (0 ≤ expectedVersion ∧ expectedVersion = a.version) ∧
          b.toFields = { a.toFields with
            adjudications := a.adjudications ++ [adjudication]
            version := a.version + 1 } := by
  unfold appendUnknownAdjudication
  cases hfound : a.findAdjudication adjudication with
  | some existing =>
    by_cases heq : existing = adjudication
    · simp only [heq, if_true, pure_eq_ok, reduceCtorEq, true_and, false_and, or_false]
      exact eq_comm
    · simp only [heq, if_false, throw_bind, reduceCtorEq, Option.some.injEq, false_and, or_false]
  | none =>
    simp only [then_eq_ok, ensureExpectedVersion_eq_ok, new_eq_ok, reduceCtorEq, false_and,
      false_or, true_and]

theorem recordEvent_eq_ok {event : AttemptEvent} {authority : AttemptAuthority}
    {worker : WorkerRef} {fence : ℤ} :
    a.recordEvent event authority worker fence expectedVersion = .ok b ↔
      a.ensureAuthority authority worker fence = .ok () ∧
        (a.findEvent event = some event ∧ b = a ∨
          a.findEvent event = none ∧ (0 ≤ expectedVersion ∧ expectedVersion = a.version) ∧
            a.state.terminal = false ∧ event.eventSeq = a.expectedNext ∧
            b.toFields = { a.toFields with
              events := a.events ++ [event]
              version := a.version + 1 }) := by
  simp only [recordEvent, then_eq_ok]
  refine and_congr_right fun _ => ?_
  cases hfound : a.findEvent event with
  | some existing =>
    by_cases heq : existing = event
    · simp only [heq, ne_eq, not_true_eq_false, if_false, pure_eq_ok, reduceCtorEq, true_and,
        false_and, or_false]
      exact eq_comm
    · simp only [heq, ne_eq, not_false_eq_true, if_true, throw_bind, reduceCtorEq,
        Option.some.injEq, false_and, or_false]
  | none =>
    simp only [then_eq_ok, ensureExpectedVersion_eq_ok, raiseIf_eq_ok, new_eq_ok, ne_eq, not_not,
      Bool.not_eq_true, reduceCtorEq, false_and, false_or, true_and]

theorem finalizeWith_eq_ok {report : EvidenceReport} {stop : Option TrustedCancellationStop}
    {r : FinalizeEvidenceResult} :
    a.finalizeWith report stop expectedVersion = .ok r ↔
      a.ensureAuthority report.authority report.worker report.fence = .ok () ∧
        a.rebuild report stop = .ok r.evidence ∧
        report.proposal.rootDigest = r.evidence.rootDigest ∧
        (r.replayed = true ∧ r.attempt = a ∧ a.evidence = some r.evidence ∨
          r.replayed = false ∧ a.evidence = none ∧
            (0 ≤ expectedVersion ∧ expectedVersion = a.version) ∧ a.state = .uploading ∧
            missingPaths report.requirements r.evidence.artifacts = [] ∧
            r.attempt.toFields = { a.toFields with
              evidence := some r.evidence
              state := r.evidence.outcome.attemptState
              version := a.version + 1 }) := by
  obtain ⟨b, evidence, replayed⟩ := r
  simp only [finalizeWith, then_eq_ok]
  refine and_congr_right fun _ => ?_
  rw [bind_eq_ok]
  constructor
  · rintro ⟨candidate, hbuild, h⟩
    cases hstored : a.evidence with
    | some stored =>
      simp only [hstored] at h
      split at h
      · next hsame =>
        obtain ⟨rfl, hroot⟩ := hsame
        cases h
        exact ⟨hbuild, hroot, Or.inl ⟨rfl, rfl, rfl⟩⟩
      · simp only [throw_bind, reduceCtorEq] at h
    | none =>
      simp only [hstored, bind_eq_ok, exists_unit, ensureExpectedVersion_eq_ok, invalidTransitionIf,
        raiseIf_eq_ok, notReadyIf_eq_ok, not_not, new_eq_ok, pure_eq_ok, ne_eq] at h
      obtain ⟨hversion, hstate, hmissing, hroot, b', hb, heq⟩ := h
      cases heq
      exact ⟨hbuild, hroot, Or.inr ⟨rfl, rfl, hversion, hstate, hmissing, hb⟩⟩
  · rintro ⟨hbuild, hroot, h⟩
    refine ⟨evidence, hbuild, ?_⟩
    rcases h with ⟨rfl, rfl, hstored⟩ | ⟨rfl, hstored, hversion, hstate, hmissing, hb⟩
    · simp only [hstored, hroot, and_self, if_true, pure_eq_ok]
    · simp only [hstored, bind_eq_ok, exists_unit, ensureExpectedVersion_eq_ok, invalidTransitionIf,
        raiseIf_eq_ok, notReadyIf_eq_ok, not_not, new_eq_ok, pure_eq_ok, ne_eq]
      exact ⟨hversion, hstate, hmissing, hroot, b, hb, rfl⟩

end Attempt
end QaRunner
