import QaRunner.Domain.Digest

/-! Suite aggregate: immutable revisions and retire semantics. -/
namespace QaRunner
open Guarded

/-- Lifecycle of one Suite aggregate, not of a single revision. -/
inductive SuiteStatus where
  | active
  | retired
  deriving DecidableEq, Repr

inductive SuiteRevisionStatus where
  | draft
  | approved
  | retired
  deriving DecidableEq, Repr

structure SuiteRevision.Fields where
  id : String
  suiteId : String
  revisionNo : ℤ
  sourceSpecDigest : Digest
  configDigest : Digest
  framework : String
  resourceProfileId : String
  status : SuiteRevisionStatus
  createdAt : Datetime
  deriving DecidableEq

def SuiteRevision.Fields.postInit (s : SuiteRevision.Fields) : Result Unit := do
  requireNonemptyString "suite_revision" "id" s.id
  requireNonemptyString "suite_revision" "suite_id" s.suiteId
  invalidIf (s.revisionNo < 1) "suite_revision" "revision_no" "invalid"
  requireNonemptyString "suite_revision" "framework" s.framework
  invalidIf (s.framework ∉ ["pytest", "playwright"]) "suite_revision" "framework" "unsupported"
  requireNonemptyString "suite_revision" "resource_profile_id" s.resourceProfileId
  requireUtc "suite_revision" "created_at" s.createdAt

/-- One immutable Suite configuration snapshot. -/
structure SuiteRevision extends SuiteRevision.Fields where
  accepted : toFields.postInit = .ok ()
  deriving DecidableEq

structure Suite.Fields where
  id : String
  projectId : String
  name : String
  status : SuiteStatus
  version : ℤ
  revisions : List SuiteRevision
  currentRevisionId : String
  retiredAt : Option Datetime := none
  deriving DecidableEq

def Suite.Fields.validateRevisions (s : Suite.Fields) : Result Unit := do
  let ids : List String := s.revisions.map (·.id)
  invalidIf (s.revisions = []) "suite" "revisions" "empty"
  invalidIf (¬ ids.Nodup) "suite" "revisions" "duplicate_id"
  invalidIf (s.revisions.map (·.revisionNo) ≠
    (List.range s.revisions.length).map fun n => (n : ℤ) + 1) "suite" "revisions"
    "revision_no_not_contiguous"
  invalidIf (∃ item ∈ s.revisions, item.suiteId ≠ s.id) "suite" "revisions" "suite_id_mismatch"
  requireNonemptyString "suite" "current_revision_id" s.currentRevisionId
  invalidIf (s.currentRevisionId ∉ ids) "suite" "current_revision_id" "not_found"
  invalidIf (ids.getLast? ≠ some s.currentRevisionId) "suite" "current_revision_id" "not_latest"

def Suite.Fields.validateRetirement (s : Suite.Fields) : Result Unit :=
  match s.status with
  | .retired => do
    let retiredAt ← need s.retiredAt
      (.domainValidation "suite" "retired_at" "required_for_retired")
    requireUtc "suite" "retired_at" retiredAt
  | .active => invalidIf s.retiredAt.isSome "suite" "retired_at" "forbidden_for_active"

def Suite.Fields.postInit (s : Suite.Fields) : Result Unit := do
  requireNonemptyString "suite" "id" s.id
  requireNonemptyString "suite" "project_id" s.projectId
  requireNonemptyString "suite" "name" s.name
  invalidIf (s.version < 0) "suite" "version" "invalid"
  s.validateRevisions
  s.validateRetirement
  invalidIf (∃ pair ∈ s.revisions.zip s.revisions.tail, pair.2.createdAt < pair.1.createdAt)
    "suite" "revisions" "timeline_not_monotonic"

/-- Immutable Suite aggregate. -/
structure Suite extends Suite.Fields where
  accepted : toFields.postInit = .ok ()
  deriving DecidableEq

namespace Suite

def acceptsNewBatch (s : Suite) : Bool := s.status == .active

def revision (s : Suite) (revisionId : Str) : Result SuiteRevision :=
  need (s.revisions.find? fun item => (item.id : Str) = revisionId)
    (.suiteConflict s.id "revision_not_found")

def requireAcceptsNewBatch (s : Suite) : Result Unit :=
  raiseIf (s.acceptsNewBatch = false) (.suiteConflict s.id "suite_retired")

end Suite
end QaRunner
