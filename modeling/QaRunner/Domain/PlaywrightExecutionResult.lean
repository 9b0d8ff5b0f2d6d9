import QaRunner.Domain.PytestExecutionResult

/-! Canonical results of the cases of one Playwright run, and the identity of a case. -/
namespace QaRunner
open Guarded

/-- The three texts that name a Playwright case. -/
structure PlaywrightCase where
  project : String
  file : String
  title : String
  deriving DecidableEq

namespace PlaywrightCase

def fields (t : PlaywrightCase) : List (String × String) :=
  [("project", t.project), ("file", t.file), ("title", t.title)]

/-- The id of a case from its parts. -/
def joined (t : PlaywrightCase) : String :=
  strip t.project ++ "::" ++ strip t.file ++ "::" ++ strip t.title

def locatorFields (t : PlaywrightCase) : FrameworkLocator.Fields where
  schemaVersion := "qep.playwright-locator.v1"
  kind := "playwright_test"
  parts := [("project", strip t.project), ("file", strip t.file), ("title", strip t.title)]

end PlaywrightCase

/-- Single shared composition for Playwright case identity. -/
def playwrightStableCaseId (t : PlaywrightCase) : Result String := do
  each t.fields fun f => invalidIf (isBlank f.2) "playwright_case_id" f.1 "invalid"
  return t.joined

/-- Build the `playwright_test` locator that collection and execution share. -/
def playwrightTestLocator (t : PlaywrightCase) : Result FrameworkLocator := do
  each t.fields fun f => invalidIf (isBlank f.2) "playwright_test_locator" f.1 "invalid"
  FrameworkLocator.new t.locatorFields

def playwrightCaseResultSchemaVersion : String := "qep.playwright-case-result.v1"

section
variable (repr : RawJson → String)

/-- A text field that must not be blank. -/
def needText (field : String) (value : RawJson) : PytestResult String :=
  need value.nonemptyText (.rejected (field ++ " must be a non-empty string"))

def parseRawPlaywrightCase : RawJson → PytestResult ValidatedCaseResult
  | .dict fields => do
    let stableCaseId ← rawField fields "stable_case_id"
    let project ← rawField fields "project"
    let file ← rawField fields "file"
    let title ← rawField fields "title"
    let outcomeValue ← rawField fields "outcome"
    let durationMs ← rawField fields "duration_ms"
    let message := (RawJson.get fields "message").getD .null
    let outcome ← need (CaseOutcome.ofValue outcomeValue)
      (.rejected ("invalid outcome " ++ repr outcomeValue))
    let stableCaseId ← needText "stable_case_id" stableCaseId
    let project ← needText "project" project
    let file ← needText "file" file
    let title ← needText "title" title
    let durationMs ← need durationMs.nonnegativeInt
      (.rejected "duration_ms must be a non-negative integer")
    let message ← need message.optionalText (.rejected "message must be a string or null")
    let t : PlaywrightCase := ⟨project, file, title⟩
    let expectedId ← domain (playwrightStableCaseId t)
    raiseIf (strip stableCaseId ≠ expectedId)
      (.rejected ("stable_case_id " ++ repr (.str stableCaseId) ++
        " does not match project/file/title composition " ++ repr (.str expectedId)))
    let frameworkLocator ← domain (playwrightTestLocator t)
    domain (ValidatedCaseResult.new {
      stableCaseId := expectedId
      frameworkLocator, outcome, durationMs, message })
  | raw => throw (.rejected ("malformed case entry: " ++ raw.subscriptError))

/-- Validate sandbox-produced Playwright `case-results.json`. -/
def acceptPlaywrightExecutionResult (schemaVersion : RawJson) (rawCases : List RawJson)
    (exitCode : ℤ) (sourceArtifactPath : ArtifactPath) (sourceArtifactDigest : Digest) :
    PytestResult (List ValidatedCaseResult × ValidatedCaseSummary) := do
  raiseIf (schemaVersion.text ≠ some playwrightCaseResultSchemaVersion)
    (.rejected ("unsupported schema_version " ++ repr schemaVersion))
  if rawCases.isEmpty then
    raiseIf (exitCode ≠ 0) (.rejected "empty case list without a successful (0) exit code")
    let summary ←
      caseSummaryOf playwrightCaseResultSchemaVersion sourceArtifactPath sourceArtifactDigest
        0 0 0 0
    return ([], summary)
  let tally ← acceptRawCases repr (parseRawPlaywrightCase repr) .empty rawCases
  let summary ← caseSummaryOf playwrightCaseResultSchemaVersion sourceArtifactPath
    sourceArtifactDigest tally.cases.length tally.passed tally.failed tally.skipped
  return (tally.cases, summary)

end

end QaRunner
