import QaRunner.Domain.PytestAttemptResult
import QaRunner.Domain.Manifest
import QaRunner.Lib.Separator

/-! Canonical results of the cases of one pytest run, and what the control plane accepts of them. -/
namespace QaRunner
open Guarded

inductive CaseOutcome where
  | passed
  | failed
  | skipped
  | error
  deriving DecidableEq, Repr

def CaseOutcome.value : CaseOutcome → String
  | .passed => "passed"
  | .failed => "failed"
  | .skipped => "skipped"
  | .error => "error"

def CaseOutcome.all : List CaseOutcome := [.passed, .failed, .skipped, .error]

/-- The parts of a node id before and after the first `::`. -/
def partitionNodeid (nodeid : String) : Option (String × String) :=
  (Separator.partition "::".toList nodeid.toList).map (Prod.map String.ofList String.ofList)

def FrameworkLocator.new : FrameworkLocator.Fields → Result FrameworkLocator :=
  construct FrameworkLocator.Fields.postInit FrameworkLocator.mk

/-- A locator of distinct named parts exists unless one of them is blank. -/
theorem FrameworkLocator.new_cases {l : FrameworkLocator.Fields}
    (hschema : isBlank l.schemaVersion = false) (hkind : isBlank l.kind = false)
    (hne : l.parts ≠ []) (hnames : ∀ part ∈ l.parts, isBlank part.1 = false)
    (hdistinct : (l.parts.map Prod.fst).Nodup) :
    ((∃ part ∈ l.parts, isBlank part.2 = true) ∧ FrameworkLocator.new l =
      .error (.domainValidation "framework_locator" "parts" "empty_id")) ∨
    ((∀ part ∈ l.parts, isBlank part.2 = false) ∧
      ∃ haccepted, FrameworkLocator.new l = .ok ⟨l, haccepted⟩) := by
  have hparts : (each l.parts fun part => do
      Manifest.requireNonemptyString "framework_locator" "parts" part.1
      Manifest.requireNonemptyString "framework_locator" "parts" part.2) =
      raiseIf (∃ part ∈ l.parts, isBlank part.2 = true)
        (.domainValidation "framework_locator" "parts" "empty_id") := by
    rw [← each_raiseIf]
    apply each_congr
    intro part hpart
    have hname : Manifest.requireNonemptyString "framework_locator" "parts" part.1 = .ok () :=
      Manifest.requireNonemptyString_eq_ok.mpr (hnames part hpart)
    rw [hname, ok_bind]
    rfl
  have hpost : l.postInit = raiseIf (∃ part ∈ l.parts, isBlank part.2 = true)
      (.domainValidation "framework_locator" "parts" "empty_id") := by
    simp only [Fields.postInit, Manifest.requireNonemptyString, invalidIf]
    simp only [Manifest.requireNonemptyString, invalidIf] at hparts
    rw [hparts, raiseIf_of_not (by simpa using hschema), raiseIf_of_not (by simpa using hkind),
      raiseIf_of_not hne, raiseIf_of_not (not_not.mpr hdistinct)]
    by_cases hblank : ∃ part ∈ l.parts, isBlank part.2 = true
    · rw [raiseIf, if_pos hblank]
      rfl
    · rw [raiseIf, if_neg hblank]
      rfl
  by_cases hblank : ∃ part ∈ l.parts, isBlank part.2 = true
  · left
    exact ⟨hblank, construct_of_error (by rw [hpost, raiseIf, if_pos hblank])⟩
  · right
    have haccepted : l.postInit = .ok () := by rw [hpost, raiseIf_of_not hblank]
    refine ⟨fun part hpart => ?_, haccepted, construct_of_ok haccepted⟩
    simpa using fun h => hblank ⟨part, hpart, h⟩

/-- The file and node parts of a node id; without a separator both are the whole id. -/
def pytestNodeidParts (nodeid : String) : String × String :=
  (partitionNodeid nodeid).getD (nodeid, nodeid)

def pytestNodeidFields (nodeid : String) : FrameworkLocator.Fields where
  schemaVersion := "qep.pytest-locator.v1"
  kind := "pytest_nodeid"
  parts := [("file", (pytestNodeidParts nodeid).1), ("node", (pytestNodeidParts nodeid).2)]

/-- The one shared file/node split for `pytest_nodeid` locators. -/
def pytestNodeidLocator (nodeid : String) : Result FrameworkLocator := do
  invalidIf (isBlank nodeid) "pytest_nodeid" "nodeid" "invalid"
  FrameworkLocator.new (pytestNodeidFields nodeid)

structure ValidatedCaseResult.Fields where
  stableCaseId : String
  frameworkLocator : FrameworkLocator
  outcome : CaseOutcome
  durationMs : ℤ
  message : Option String
  deriving DecidableEq

def ValidatedCaseResult.Fields.postInit (c : ValidatedCaseResult.Fields) : Result Unit := do
  invalidIf (isBlank c.stableCaseId) "validated_case_result" "stable_case_id" "invalid"
  invalidIf (c.durationMs < 0) "validated_case_result" "duration_ms" "invalid"

/-- One schema-checked outcome of a case. -/
structure ValidatedCaseResult extends ValidatedCaseResult.Fields where
  accepted : toFields.postInit = .ok ()
  deriving DecidableEq

def ValidatedCaseResult.new : ValidatedCaseResult.Fields → Result ValidatedCaseResult :=
  construct ValidatedCaseResult.Fields.postInit ValidatedCaseResult.mk

/-- A value as `json.loads` returns it; a float is its text. -/
inductive RawJson where
  | null
  | bool (b : Bool)
  | int (n : ℤ)
  | float (text : String)
  | str (s : String)
  | list (items : List RawJson)
  | dict (fields : List (String × RawJson))

namespace RawJson

/-- The text of the error that a subscript by a string raises. -/
def subscriptError : RawJson → String
  | .null => "'NoneType' object is not subscriptable"
  | .bool _ => "'bool' object is not subscriptable"
  | .int _ => "'int' object is not subscriptable"
  | .float _ => "'float' object is not subscriptable"
  | .str _ => "string indices must be integers, not 'str'"
  | .list _ => "list indices must be integers or slices, not str"
  | .dict _ => ""

def get (fields : List (String × RawJson)) (key : String) : Option RawJson :=
  (fields.find? (·.1 = key)).map (·.2)

def text : RawJson → Option String
  | .str s => some s
  | _ => none

def nonemptyText : RawJson → Option String
  | .str s => if isBlank s then none else some s
  | _ => none

def nonnegativeInt : RawJson → Option ℤ
  | .int n => if n < 0 then none else some n
  | _ => none

def optionalText : RawJson → Option (Option String)
  | .null => some none
  | .str s => some (some s)
  | _ => none

end RawJson

/-- The member with a value; nothing but a string is one. -/
def CaseOutcome.ofValue : RawJson → Option CaseOutcome
  | .str s => CaseOutcome.all.find? (·.value = s)
  | _ => none

/-- What leaves the adapter: a rejection of its own, or an error of a value it builds. -/
inductive PytestResultError where
  | rejected (reason : String)
  | domain (error : DomainError)
  deriving DecidableEq

abbrev PytestResult := Except PytestResultError

/-- An error of a value object is not caught. -/
def domain {α : Type} (x : Result α) : PytestResult α := x.mapError .domain

def caseResultSchemaVersion : String := "qep.pytest-case-result.v1"

def noTestsCollectedExitCode : ℤ := 5

/-- The fields of a raw case once each has passed its check. -/
structure CaseFields where
  stableCaseId : String
  outcome : CaseOutcome
  durationMs : ℤ
  message : Option String

def rawField (fields : List (String × RawJson)) (key : String) : PytestResult RawJson :=
  need (RawJson.get fields key) (.rejected ("malformed case entry: '" ++ key ++ "'"))

/-- What the adapter keeps while it goes through the cases. -/
structure CaseTally where
  seenIds : List String
  cases : List ValidatedCaseResult
  passed : ℤ
  failed : ℤ
  skipped : ℤ

def CaseTally.empty : CaseTally := ⟨[], [], 0, 0, 0⟩

/-- Failures and errors both count as failed. -/
def CaseTally.add (tally : CaseTally) (result : ValidatedCaseResult) : CaseTally where
  seenIds := tally.seenIds ++ [result.stableCaseId]
  cases := tally.cases ++ [result]
  passed := if result.outcome = .passed then tally.passed + 1 else tally.passed
  skipped := if result.outcome = .skipped then tally.skipped + 1 else tally.skipped
  failed :=
    if result.outcome = .passed ∨ result.outcome = .skipped then tally.failed else tally.failed + 1

def ValidatedCaseSummary.new : ValidatedCaseSummary.Fields → Result ValidatedCaseSummary :=
  construct ValidatedCaseSummary.Fields.postInit ValidatedCaseSummary.mk

def caseSummaryOf (schemaVersion : String) (sourceArtifactPath : ArtifactPath)
    (sourceArtifactDigest : Digest) (expected passed failed skipped : ℤ) :
    PytestResult ValidatedCaseSummary :=
  domain (ValidatedCaseSummary.new {
    schemaVersion, sourceArtifactPath, sourceArtifactDigest, expected, passed, failed, skipped
    notReported := 0
    unexpected := 0 })

section
variable (repr : RawJson → String)

def readRawCase : RawJson → PytestResult CaseFields
  | .dict fields => do
    let stableCaseId ← rawField fields "stable_case_id"
    let outcomeValue ← rawField fields "outcome"
    let durationMs ← rawField fields "duration_ms"
    let message := (RawJson.get fields "message").getD .null
    let outcome ← need (CaseOutcome.ofValue outcomeValue)
      (.rejected ("invalid outcome " ++ repr outcomeValue))
    let stableCaseId ← need stableCaseId.nonemptyText
      (.rejected "stable_case_id must be a non-empty string")
    let durationMs ← need durationMs.nonnegativeInt
      (.rejected "duration_ms must be a non-negative integer")
    let message ← need message.optionalText (.rejected "message must be a string or null")
    return ⟨stableCaseId, outcome, durationMs, message⟩
  | raw => throw (.rejected ("malformed case entry: " ++ raw.subscriptError))

def parseRawCase (raw : RawJson) : PytestResult ValidatedCaseResult := do
  let c ← readRawCase repr raw
  let frameworkLocator ← domain (pytestNodeidLocator c.stableCaseId)
  domain (ValidatedCaseResult.new {
    stableCaseId := c.stableCaseId
    frameworkLocator
    outcome := c.outcome
    durationMs := c.durationMs
    message := c.message })

/-- The loop over the raw cases, which both adapters share. -/
def acceptRawCases (parse : RawJson → PytestResult ValidatedCaseResult) (tally : CaseTally) :
    List RawJson → PytestResult CaseTally
  | [] => return tally
  | raw :: raws => do
    let result ← parse raw
    raiseIf (result.stableCaseId ∈ tally.seenIds)
      (.rejected ("duplicate stable_case_id " ++ repr (.str result.stableCaseId)))
    acceptRawCases parse (tally.add result) raws

/-- Validate and canonicalize the sandbox-produced `case-results.json`. -/
def acceptPytestExecutionResult (schemaVersion : RawJson) (rawCases : List RawJson) (exitCode : ℤ)
    (sourceArtifactPath : ArtifactPath) (sourceArtifactDigest : Digest) :
    PytestResult (List ValidatedCaseResult × ValidatedCaseSummary) := do
  raiseIf (schemaVersion.text ≠ some caseResultSchemaVersion)
    (.rejected ("unsupported schema_version " ++ repr schemaVersion))
  if rawCases.isEmpty then
    raiseIf (exitCode ≠ noTestsCollectedExitCode)
      (.rejected "empty case list without a NO_TESTS_COLLECTED exit code")
    let summary ←
      caseSummaryOf caseResultSchemaVersion sourceArtifactPath sourceArtifactDigest 0 0 0 0
    return ([], summary)
  let tally ← acceptRawCases repr (parseRawCase repr) .empty rawCases
  let summary ← caseSummaryOf caseResultSchemaVersion sourceArtifactPath sourceArtifactDigest
    tally.cases.length tally.passed tally.failed tally.skipped
  return (tally.cases, summary)

end

end QaRunner
