import QaRunner.Lib.Guarded
import QaRunner.Lib.Datetime
import QaRunner.Lib.Separator
import QaRunner.Lib.Str

/-! Errors raised by the domain, the shared version check, and the string and clock checks
that every value object repeats. Digests, workers and events appear in errors by their
identifying fields. -/
namespace QaRunner
open Guarded

/-- The exceptions an unguarded access can raise. -/
inductive Crash where
  | assertionError
  | attributeError
  | indexError
  | keyError
  | overflowError
  | stopIteration
  | typeError
  deriving DecidableEq, Repr

inductive DomainError where
  | artifactValidation (field reason : String)
  | domainValidation (entityType field reason : String)
  | workerGenerationConflict (currentWorkerId : Str) (currentGeneration : ℤ)
      (receivedWorkerId : Str) (receivedGeneration : ℤ) (reason : String)
  | workerLeaseConflict (assignmentId : Str) (reason : String)
  | workerNotClaimable (workerId : Str) (generation : ℤ) (reason : String)
  | executionAdmission (reason : String)
  | evidenceNotReady (reason : String)
  | evidenceDigestMismatch (claimed computed : String)
  | evidenceConflict (storedRoot receivedRoot : String)
  | unknownObservationConflict (attemptId observationId : Str)
  | attemptUnknownReviewRequired (runId attemptId : Str) (fence : ℤ) (reason : String)
  | adjudicationConflict (attemptId adjudicationId : Str)
  | retryNotAllowed (runId attemptId adjudicationId : Str) (reason : String)
  | cancellationConflict (runId storedKey receivedKey : Str)
  | batchCancellationConflict (batchId storedKey receivedKey : Str)
  | attemptConflict (runId attemptId : Str) (reason : String)
  | canonicalization (path : Str) (reason : String)
  | assignmentConflict (runId assignmentId : Str) (reason : String)
  | suiteConflict (suiteId reason : String)
  | invalidTransition (entityType : String) (entityId : Str) (currentState requestedState : String)
      (currentVersion expectedVersion : ℤ)
  | idempotencyConflict (scope key : Str) (storedDigest receivedDigest : String)
  | eventConflict (attemptId storedEventId : Str) (storedEventSeq : ℤ)
      (receivedEventId : Str) (receivedEventSeq : ℤ)
  | eventSequenceGap (attemptId : Str) (expectedNext receivedSeq : ℤ)
  | attemptEventRejected (attemptId : Str) (reason : String)
  | staleFence (attemptId : Str) (currentFence receivedFence : ℤ)
  | staleGeneration (attemptId currentWorkerId : Str) (currentGeneration : ℤ)
      (receivedWorkerId : Str) (receivedGeneration : ℤ)
  | queueOverflow (queueClass : String) (currentDepth maxDepth : ℤ) (reason : String)
  | versionConflict (entityType : String) (entityId : Str) (currentVersion expectedVersion : ℤ)
  | crash (kind : Crash)
  deriving DecidableEq, Repr

abbrev Result := Except DomainError

/-- Apply the shared CAS precondition for immutable domain commands. -/
def ensureExpectedVersion (entityType : String) (entityId : Str)
    (currentVersion expectedVersion : ℤ) : Result Unit := do
  raiseIf (expectedVersion < 0) (.domainValidation entityType "expected_version" "negative")
  raiseIf (expectedVersion ≠ currentVersion)
    (.versionConflict entityType entityId currentVersion expectedVersion)

theorem ensureExpectedVersion_eq_ok {entityType : String} {entityId : Str}
    {currentVersion expectedVersion : ℤ} {u : Unit} :
    ensureExpectedVersion entityType entityId currentVersion expectedVersion = .ok u ↔
      0 ≤ expectedVersion ∧ expectedVersion = currentVersion := by
  simp [ensureExpectedVersion, then_eq_ok, raiseIf_eq_ok]

def invalidIf (c : Prop) [Decidable c] (entity field reason : String) : Result Unit :=
  raiseIf c (.domainValidation entity field reason)

theorem invalidIf_eq_ok {c : Prop} [Decidable c] {entity field reason : String} {u : Unit} :
    invalidIf c entity field reason = .ok u ↔ ¬ c := raiseIf_eq_ok

theorem invalidIf_of {c : Prop} [Decidable c] {entity field reason : String} (h : c) :
    invalidIf c entity field reason = .error (.domainValidation entity field reason) := if_pos h

/-- The characters `str.strip` removes. -/
def isSpace (c : Char) : Bool :=
  let n := c.toNat
  (9 ≤ n && n ≤ 13) || (28 ≤ n && n ≤ 32) || n == 0x85 || n == 0xa0 || n == 0x1680 ||
    (0x2000 ≤ n && n ≤ 0x200a) || n == 0x2028 || n == 0x2029 || n == 0x202f || n == 0x205f ||
    n == 0x3000

/-- A text without the blanks at its ends. -/
def strip (s : String) : String := String.ofList (Separator.strip isSpace s.toList)

theorem strip_eq_self {s : String} (h : Separator.Trimmed isSpace s.toList) : strip s = s := by
  rw [strip, Separator.strip_of_trimmed h, String.ofList_toList]

/-- Nothing is left after stripping, which removes no surrogate. -/
def isBlank : Str → Bool
  | .text s => s.toList.all isSpace
  | .stray _ _ _ => false

def requireNonemptyString (entity field : String) (value : Str) : Result Unit :=
  invalidIf (isBlank value) entity field "empty"

def requirePositiveInteger (entity field : String) (value : ℤ) : Result Unit :=
  invalidIf (value < 1) entity field "not_positive"

def requireNonnegativeVersion (entity field : String) (value : ℤ) : Result Unit :=
  invalidIf (value < 0) entity field "negative"

/-- A naive value and a value with another offset are rejected alike. -/
def requireUtc (entity field : String) (value : Datetime) : Result Unit :=
  invalidIf (¬ value.IsUtc) entity field "not_utc"

/-- The instant a duration after another; leaving the calendar is not caught. -/
def instantAfter (start : Datetime) (ttl : ℤ) : Result Datetime :=
  need (start.plus ttl) (.crash .overflowError)

theorem instantAfter_eq_ok {start finish : Datetime} {ttl : ℤ} :
    instantAfter start ttl = .ok finish ↔ (finish.micros : ℤ) = start.micros + ttl ∧
      finish.micros ≤ Datetime.lastMicros ∧ finish.utcoffset = start.utcoffset := by
  rw [instantAfter, need_eq_ok, Datetime.plus_eq_some]

theorem requireNonemptyString_eq_ok {entity field : String} {value : Str} {u : Unit} :
    requireNonemptyString entity field value = .ok u ↔ isBlank value = false := by
  simp [requireNonemptyString, invalidIf_eq_ok]

theorem requireNonnegativeVersion_eq_ok {entity field : String} {value : ℤ} {u : Unit} :
    requireNonnegativeVersion entity field value = .ok u ↔ 0 ≤ value := by
  simp [requireNonnegativeVersion, invalidIf_eq_ok]

theorem requireUtc_eq_ok {entity field : String} {value : Datetime} {u : Unit} :
    requireUtc entity field value = .ok u ↔ value.IsUtc := by
  simp [requireUtc, invalidIf_eq_ok]

end QaRunner
