import QaRunner.Domain.Cancellation
import Mathlib.Data.List.Lex

/-! Trusted artifacts, platform exit facts, and the evidence manifest the control plane
rebuilds from them. -/
namespace QaRunner
open Guarded

inductive ArtifactClass where
  | structuredResult
  | log
  | screenshot
  | video
  | trace
  | report
  | diagnostic
  deriving DecidableEq, Repr

def ArtifactClass.value : ArtifactClass → String
  | .structuredResult => "structured_result"
  | .log => "log"
  | .screenshot => "screenshot"
  | .video => "video"
  | .trace => "trace"
  | .report => "report"
  | .diagnostic => "diagnostic"

inductive PlatformExitClass where
  | completed
  | infraFailed
  | cancelled
  deriving DecidableEq, Repr

def PlatformExitClass.value : PlatformExitClass → String
  | .completed => "completed"
  | .infraFailed => "infra_failed"
  | .cancelled => "cancelled"

def artifactInvalidIf (c : Prop) [Decidable c] (field reason : String) : Result Unit :=
  raiseIf c (.artifactValidation field reason)

def notReadyIf (c : Prop) [Decidable c] (reason : String) : Result Unit :=
  raiseIf c (.evidenceNotReady reason)

theorem notReadyIf_eq_ok {c : Prop} [Decidable c] {reason : String} {u : Unit} :
    notReadyIf c reason = .ok u ↔ ¬ c := raiseIf_eq_ok

structure ArtifactPath.Fields where
  value : Str
  deriving DecidableEq

def ArtifactPath.Fields.postInit (p : ArtifactPath.Fields) : Result Unit :=
  match p.value with
  | .stray _ _ _ => throw (.artifactValidation "path" "must be valid UTF-8")
  | .text value => do
    let chars := value.toList
    artifactInvalidIf (chars = []) "path" "must not be empty"
    artifactInvalidIf (chars.head? = some '/') "path" "must be relative"
    artifactInvalidIf (Char.ofNat 0 ∈ chars) "path" "must not contain NUL"
    artifactInvalidIf ('\\' ∈ chars) "path" "must use POSIX separators"
    artifactInvalidIf (∃ segment ∈ chars.splitOn '/',
      segment ∈ [[], ['.'], ['.', '.']]) "path" "contains an unsafe segment"

/-- A safe, relative POSIX logical path within one Attempt. -/
structure ArtifactPath extends ArtifactPath.Fields where
  accepted : toFields.postInit = .ok ()
  deriving DecidableEq

/-- An accepted path is valid Unicode. -/
def ArtifactPath.text (p : ArtifactPath) : String :=
  match h : p.value with
  | .text value => value
  | .stray _ _ _ => absurd p.accepted (by simp [Fields.postInit, h, throw_eq_ok])

/-- The UTF-8 bytes of a path, the order artifacts are listed in. -/
def ArtifactPath.encode (p : ArtifactPath) : List ℕ :=
  p.text.toList.flatMap fun c => (String.utf8EncodeChar c).map UInt8.toNat

structure VerifiedArtifact.Fields where
  path : ArtifactPath
  contentClass : ArtifactClass
  sizeBytes : ℤ
  digest : Digest
  deriving DecidableEq

def VerifiedArtifact.Fields.postInit (a : VerifiedArtifact.Fields) : Result Unit :=
  artifactInvalidIf (a.sizeBytes < 0) "size_bytes" "must be non-negative"

/-- Logical metadata already verified by the upload boundary. -/
structure VerifiedArtifact extends VerifiedArtifact.Fields where
  accepted : toFields.postInit = .ok ()
  deriving DecidableEq

/-- Platform-owned process facts that test content cannot override. -/
structure TrustedExitFacts where
  sourceEventId : Str
  pid : Option ℤ
  exitClass : PlatformExitClass
  exitCode : Option ℤ
  signal : Option ℤ
  oom : Bool
  timeout : Bool
  deriving DecidableEq

/-- Untrusted Worker proposal used only for root-digest comparison. -/
structure EvidenceProposal where
  rootDigest : Digest
  deriving DecidableEq

structure ValidatedCaseSummary.Fields where
  schemaVersion : Str
  sourceArtifactPath : ArtifactPath
  sourceArtifactDigest : Digest
  expected : ℤ
  passed : ℤ
  failed : ℤ
  skipped : ℤ
  notReported : ℤ
  unexpected : ℤ
  deriving DecidableEq

def ValidatedCaseSummary.Fields.postInit (s : ValidatedCaseSummary.Fields) : Result Unit := do
  notReadyIf (∃ count ∈ [s.expected, s.passed, s.failed, s.skipped, s.notReported, s.unexpected],
    count < 0) "case summary counts must be non-negative"
  notReadyIf (s.expected ≠ s.passed + s.failed + s.skipped + s.notReported)
    "case summary does not account for every expected case"

/-- Schema-checked case aggregate tied to a verified structured Artifact. -/
structure ValidatedCaseSummary extends ValidatedCaseSummary.Fields where
  accepted : toFields.postInit = .ok ()
  deriving DecidableEq

/-- Suite policy facts required before terminal classification; the paths form a set. -/
structure EvidenceRequirements where
  requiredArtifactPaths : List ArtifactPath

inductive EvidenceOutcome where
  | passed
  | testFailed
  | infraFailed
  | cancelled
  deriving DecidableEq, Repr

def EvidenceOutcome.value : EvidenceOutcome → String
  | .passed => "passed"
  | .testFailed => "test_failed"
  | .infraFailed => "infra_failed"
  | .cancelled => "cancelled"

/-- Control-plane rebuilt immutable evidence for one Attempt. -/
structure EvidenceManifest where
  schemaVersion : Str
  attemptId : Str
  runId : Str
  attemptNo : ℤ
  assignmentId : Str
  fence : ℤ
  worker : WorkerRef
  executionSpecDigest : Digest
  platformExit : TrustedExitFacts
  caseSummary : Option ValidatedCaseSummary
  artifacts : List VerifiedArtifact
  classificationVersion : Str
  outcome : EvidenceOutcome
  rootDigest : Digest
  cancellationStop : Option TrustedCancellationStop
  deriving DecidableEq

/-- The attempt identity and the facts a manifest is rebuilt from. -/
structure EvidenceInput where
  attemptId : Str
  runId : Str
  attemptNo : ℤ
  assignmentId : Str
  fence : ℤ
  worker : WorkerRef
  executionSpecDigest : Digest
  trustedExit : Option TrustedExitFacts
  caseSummary : Option ValidatedCaseSummary
  artifacts : List VerifiedArtifact
  cancellationStop : Option TrustedCancellationStop

def EvidenceInput.ensureCancellationStopBinding (e : EvidenceInput)
    (trustedExit : TrustedExitFacts) : Result Unit :=
  whenSome e.cancellationStop fun stop => do
    notReadyIf (trustedExit.exitClass ≠ .cancelled)
      "trusted cancellation stop proof requires a cancelled exit"
    notReadyIf (stop.sourceEventId ≠ trustedExit.sourceEventId)
      "cancellation stop source event does not match exit facts"
    notReadyIf (stop.runId ≠ e.runId ∨ stop.attemptId ≠ e.attemptId ∨ stop.fence ≠ e.fence ∨
      stop.worker ≠ e.worker) "cancellation stop proof does not match the attempt"

def ensureCaseSummarySource (caseSummary : Option ValidatedCaseSummary)
    (artifacts : List VerifiedArtifact) : Result Unit :=
  whenSome caseSummary fun summary => do
    let matching ← need (artifacts.find? fun a => a.path = summary.sourceArtifactPath)
      (.evidenceNotReady "case summary source artifact is missing")
    notReadyIf (matching.contentClass ≠ .structuredResult)
      "case summary source is not a structured result"
    notReadyIf (matching.digest ≠ summary.sourceArtifactDigest)
      "case summary source digest does not match the artifact"

/-- The exit code and case counts of a process that ran to completion. -/
def classifyCompleted (exit : TrustedExitFacts) (caseSummary : Option ValidatedCaseSummary) :
    Result EvidenceOutcome := do
  notReadyIf (¬ ∃ pid ∈ exit.pid, 0 < pid) "completed process facts require a positive pid"
  notReadyIf (exit.signal.isSome ∨ exit.oom = true ∨ exit.timeout = true)
    "completed process facts contradict a platform failure"
  let exitCode ← need exit.exitCode
    (.evidenceNotReady "completed process facts require an exit code")
  let summary ← need caseSummary
    (.evidenceNotReady "completed process facts require a validated case summary")
  let incomplete : Prop := 0 < summary.notReported ∨ 0 < summary.unexpected
  if exitCode = 0 ∧ summary.failed = 0 ∧ ¬ incomplete then
    return .passed
  if exitCode ≠ 0 ∧ 0 < summary.failed ∧ ¬ incomplete then
    return .testFailed
  throw (.evidenceNotReady "process exit and validated case summary are contradictory")

def classifyOutcome (exit : TrustedExitFacts) (caseSummary : Option ValidatedCaseSummary)
    (cancellationStop : Option TrustedCancellationStop) : Result EvidenceOutcome :=
  match exit.exitClass with
  | .infraFailed => return .infraFailed
  | .cancelled => do
    notReadyIf cancellationStop.isNone "trusted cancellation stop proof is missing"
    return .cancelled
  | .completed => classifyCompleted exit caseSummary

def caseSummaryPayload (s : ValidatedCaseSummary) : Json :=
  .dict [("schema_version", .str s.schemaVersion),
    ("source_artifact_path", .str s.sourceArtifactPath.value),
    ("source_artifact_digest", .str s.sourceArtifactDigest.value), ("expected", .int s.expected),
    ("passed", .int s.passed), ("failed", .int s.failed), ("skipped", .int s.skipped),
    ("not_reported", .int s.notReported), ("unexpected", .int s.unexpected)]

def TrustedExitFacts.payload (exit : TrustedExitFacts) : Json :=
  .dict [("source_event_id", .str exit.sourceEventId), ("pid", optionalInt exit.pid),
    ("class", .str exit.exitClass.value), ("exit_code", optionalInt exit.exitCode),
    ("signal", optionalInt exit.signal), ("oom", .bool exit.oom), ("timeout", .bool exit.timeout)]

def VerifiedArtifact.payload (a : VerifiedArtifact) : Json :=
  .dict [("path", .str a.path.value), ("class", .str a.contentClass.value),
    ("size_bytes", .int a.sizeBytes), ("digest", .str a.digest.value)]

def cancellationStopPayload (stop : TrustedCancellationStop) : Result Json := do
  let proof ← stop.digest
  return .dict [("proof_digest", .str proof.value),
    ("cancellation_intent_digest", .str stop.cancellationIntentDigest.value),
    ("source_event_id", .str stop.sourceEventId),
    ("process_stopped_at", .str stop.processStoppedAt.isoformat),
    ("sut_access_stopped_at", .str stop.sutAccessStoppedAt.isoformat),
    ("recorded_at", .str stop.recordedAt.isoformat)]

def classificationSchemaVersion : String := "qep.attempt-classification.v1"

def EvidenceInput.payload (e : EvidenceInput) (exit : TrustedExitFacts)
    (artifacts : List VerifiedArtifact) (outcome : EvidenceOutcome) : Json.Members :=
  [("attempt", .dict [("assignment_id", .str e.assignmentId), ("attempt_id", .str e.attemptId),
      ("attempt_no", .int e.attemptNo), ("fence", .int e.fence), ("run_id", .str e.runId)]),
    ("worker", e.worker.payload),
    ("input", .dict [("execution_spec_digest", .str e.executionSpecDigest.value)]),
    ("platform_exit", exit.payload), ("case_summary", Json.opt caseSummaryPayload e.caseSummary),
    ("artifacts", .list (artifacts.map (·.payload))),
    ("classification", .dict [("schema_version", .str classificationSchemaVersion),
      ("outcome", .str outcome.value)])]

/-- The schema and payload of the root digest; a cancellation stop extends both. -/
def EvidenceInput.rootPayload (e : EvidenceInput) (base : Json.Members) :
    Result (String × Json) :=
  match e.cancellationStop with
  | none => return ("qep.m0-attempt-evidence.v1", .dict base)
  | some stop => do
    let proof ← cancellationStopPayload stop
    return ("qep.m0-attempt-evidence.v2",
      .dict (base ++ ([("cancellation_stop", proof)] : Json.Members)))

/-- Rebuild canonical evidence exclusively from control-plane facts. -/
def buildEvidenceManifest (e : EvidenceInput) : Result EvidenceManifest := do
  let exit ← need e.trustedExit (.evidenceNotReady "trusted platform exit facts are missing")
  e.ensureCancellationStopBinding exit
  let ordered := Sorting.sortOn (·.path.encode) e.artifacts
  artifactInvalidIf (¬ (ordered.map (·.path)).Nodup) "path" "must be unique within an Attempt"
  ensureCaseSummarySource e.caseSummary ordered
  let outcome ← classifyOutcome exit e.caseSummary e.cancellationStop
  let root ← e.rootPayload (e.payload exit ordered outcome)
  let rootDigest ← canonicalDigest root.1 root.2
  return {
    schemaVersion := root.1
    attemptId := e.attemptId
    runId := e.runId
    attemptNo := e.attemptNo
    assignmentId := e.assignmentId
    fence := e.fence
    worker := e.worker
    executionSpecDigest := e.executionSpecDigest
    platformExit := exit
    caseSummary := e.caseSummary
    artifacts := ordered
    classificationVersion := classificationSchemaVersion
    outcome, rootDigest
    cancellationStop := e.cancellationStop }

theorem classifyOutcome_cancelled {exit : TrustedExitFacts}
    {caseSummary : Option ValidatedCaseSummary} {stop : Option TrustedCancellationStop}
    (h : classifyOutcome exit caseSummary stop = .ok .cancelled) :
    exit.exitClass = .cancelled ∧ stop.isSome := by
  unfold classifyOutcome at h
  split at h
  · simp [pure_eq_ok] at h
  · next hclass =>
    simp only [then_eq_ok, notReadyIf_eq_ok, Option.isNone_iff_eq_none] at h
    exact ⟨hclass, Option.isSome_iff_ne_none.mpr h.1⟩
  · exfalso
    simp only [classifyCompleted, bind_eq_ok, exists_unit, need_eq_ok] at h
    obtain ⟨-, -, code, -, summary, -, h⟩ := h
    split at h
    · simp [pure_eq_ok] at h
    · split at h <;> simp [pure_eq_ok, throw_eq_ok] at h

/-- What a successful rebuild says about the manifest: it carries the facts it was built from,
and a cancelled outcome carries a stop bound to the attempt. -/
theorem buildEvidenceManifest_ok {e : EvidenceInput} {m : EvidenceManifest}
    (h : buildEvidenceManifest e = .ok m) :
    e.trustedExit = some m.platformExit ∧ m.cancellationStop = e.cancellationStop ∧
      m.caseSummary = e.caseSummary ∧ m.artifacts = Sorting.sortOn (·.path.encode) e.artifacts ∧
      (m.outcome = .cancelled → e.cancellationStop.isSome) ∧
      (∀ stop, e.cancellationStop = some stop → stop.runId = e.runId ∧
        stop.attemptId = e.attemptId ∧ stop.fence = e.fence ∧ stop.worker = e.worker) := by
  simp only [buildEvidenceManifest, bind_eq_ok, exists_unit, need_eq_ok, pure_eq_ok] at h
  obtain ⟨exit, hexit, hbinding, -, -, outcome, houtcome, root, -, digest, -, rfl⟩ := h
  simp only [EvidenceInput.ensureCancellationStopBinding, whenSome_eq_ok, then_eq_ok,
    notReadyIf_eq_ok, not_or, not_not] at hbinding
  refine ⟨hexit, rfl, rfl, rfl, ?_, ?_⟩
  · intro hcancelled
    simp only at hcancelled
    rw [hcancelled] at houtcome
    exact (classifyOutcome_cancelled houtcome).2
  · intro stop hstop
    exact (hbinding stop hstop).2.2

end QaRunner
