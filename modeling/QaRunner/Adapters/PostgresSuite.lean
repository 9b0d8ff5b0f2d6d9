import QaRunner.Domain.SuiteLifecycle
import QaRunner.Lib.PublishOnce
import QaRunner.Lib.Keyed

/-! The gateway that stores Suites: their rows, the aggregate read back from them, and a session
of calls on one transaction that commits all of its writes or none. -/
namespace QaRunner
open Guarded PublishOnce

structure SuiteRow where
  id : String
  projectId : String
  name : String
  status : SuiteStatus
  version : ℤ
  createdAt : Datetime
  retiredAt : Option Datetime
  deriving DecidableEq

/-- Digests are stored as their hexadecimal digits. -/
structure SuiteRevisionRow where
  id : String
  suiteId : String
  revisionNo : ℤ
  sourceSpecDigest : String
  configDigest : String
  framework : String
  resourceProfileId : Option String
  status : SuiteRevisionStatus
  createdAt : Datetime
  deriving DecidableEq

/-- The tables of Suites, with the keys of the tables they reference. -/
structure SuiteTables where
  projects : List String
  profiles : List String
  suites : List SuiteRow := []
  revisions : List SuiteRevisionRow := []

/-- What a call of the gateway raises; the database names the constraint it refuses by. -/
inductive SuiteGatewayError where
  | portContract (resource field reason : String)
  | domain (e : DomainError)
  | integrity (constraint : String)
  deriving DecidableEq

abbrev SuiteGateway := Except SuiteGatewayError

namespace SuiteGateway

def domain {α : Type} (x : Result α) : SuiteGateway α :=
  match x with
  | .ok a => .ok a
  | .error e => .error (.domain e)

/-- A call or its arguments break the contract of the port. -/
def contract (field reason : String) : SuiteGatewayError :=
  .portContract "suite_gateway" field reason

end SuiteGateway

open SuiteGateway

namespace SuiteRevision

def digestFromHex (value : String) : Result Digest := Digest.new ("sha256:" ++ value)

/-- A missing and an empty profile are read as the default one. -/
def fromRow (row : SuiteRevisionRow) : Result SuiteRevision := do
  let sourceSpecDigest ← digestFromHex row.sourceSpecDigest
  let configDigest ← digestFromHex row.configDigest
  let stored := row.resourceProfileId.getD ""
  SuiteRevision.new
    { id := row.id
      suiteId := row.suiteId
      revisionNo := row.revisionNo
      sourceSpecDigest := sourceSpecDigest
      configDigest := configDigest
      framework := row.framework
      resourceProfileId := if stored = "" then "profile-default" else stored
      status := row.status
      createdAt := row.createdAt }

def toRow (r : SuiteRevision) : SuiteRevisionRow :=
  { id := r.id
    suiteId := r.suiteId
    revisionNo := r.revisionNo
    sourceSpecDigest := digestHex r.sourceSpecDigest
    configDigest := digestHex r.configDigest
    framework := r.framework
    resourceProfileId := some r.resourceProfileId
    status := r.status
    createdAt := r.createdAt }

end SuiteRevision

namespace SuiteTables

variable (t : SuiteTables)

def revisionRows (suiteId : String) : List SuiteRevisionRow :=
  t.revisions.filter (·.suiteId = suiteId)

/-- The aggregate of the rows with an id. -/
def load (suiteId : String) : SuiteGateway Suite := do
  let row ← need (t.suites.find? (·.id = suiteId)) (contract "suite_id" "not_found")
  let revisionRows := Sorting.sortOn (·.revisionNo) (t.revisionRows suiteId)
  raiseIf (revisionRows = []) (contract "revisions" "empty")
  let revisions ← SuiteGateway.domain (collect revisionRows SuiteRevision.fromRow)
  let last ← need revisions.getLast? (.domain (.crash .indexError))
  SuiteGateway.domain <| Suite.new
    { id := row.id
      projectId := row.projectId
      name := row.name
      status := row.status
      version := row.version
      revisions := revisions
      currentRevisionId := last.id
      retiredAt := row.retiredAt }

/-- Insert a Suite row: its keys are free, its project exists, and the retirement is consistent. -/
def insertSuite (row : SuiteRow) : SuiteGateway SuiteTables := do
  raiseIf (∃ r ∈ t.suites, r.id = row.id) (.integrity "qep_suites_pkey")
  raiseIf (∃ r ∈ t.suites, r.projectId = row.projectId ∧ r.name = row.name)
    (.integrity "qep_suites_project_id_name_key")
  raiseIf (row.projectId ∉ t.projects) (.integrity "qep_suites_project_id_fkey")
  raiseIf (¬ (row.status = .retired ↔ row.retiredAt.isSome))
    (.integrity "qep_suites_retired_at_consistency")
  return { t with suites := t.suites ++ [row] }

/-- Insert a revision row: its keys are free, and its Suite and its profile exist. -/
def insertRevision (row : SuiteRevisionRow) : SuiteGateway SuiteTables := do
  raiseIf (∃ r ∈ t.revisions, r.id = row.id) (.integrity "qep_suite_revisions_pkey")
  raiseIf (∃ r ∈ t.revisions, r.suiteId = row.suiteId ∧ r.revisionNo = row.revisionNo)
    (.integrity "qep_suite_revisions_suite_id_revision_no_key")
  raiseIf (row.suiteId ∉ t.suites.map (·.id)) (.integrity "qep_suite_revisions_suite_id_fkey")
  raiseIf (∃ profile ∈ row.resourceProfileId, profile ∉ t.profiles)
    (.integrity "qep_suite_revisions_resource_profile_id_fkey")
  return { t with revisions := t.revisions ++ [row] }

/-- The row a compare-and-set on the version of an active Suite matches. -/
def Matched (suiteId : String) (version : ℤ) (row : SuiteRow) : Prop :=
  row.id = suiteId ∧ row.version = version ∧ row.status = .active

instance (suiteId : String) (version : ℤ) : DecidablePred (Matched suiteId version) :=
  fun _ => inferInstanceAs (Decidable (_ ∧ _))

/-- Update the matched row; anything but one match is a version conflict. -/
def updateActive (suiteId : String) (version : ℤ) (set : SuiteRow → SuiteRow) :
    SuiteGateway SuiteTables := do
  raiseIf (t.suites.countP (Matched suiteId version ·) ≠ 1)
    (.domain (.versionConflict "suite" suiteId version version))
  return { t with
    suites := t.suites.map fun row => if Matched suiteId version row then set row else row }

end SuiteTables

/-- One transaction: its view of the tables, the locked aggregate, and whether a publication
failed in it. -/
structure SuiteSession where
  tables : SuiteTables
  snapshot : Option Suite := none
  aborted : Bool := false

namespace SuiteSession

variable (s : SuiteSession)

def getSuiteForUpdate (suiteId : String) : SuiteGateway (Suite × SuiteSession) :=
  match s.snapshot with
  | some snapshot => do
    raiseIf (snapshot.id ≠ suiteId) (contract "lifecycle" "aggregate_already_locked")
    return (snapshot, s)
  | none => do
    let suite ← s.tables.load suiteId
    return (suite, { s with snapshot := some suite })

/-- Whether a stored Suite answers a registration of its id. -/
def SameRegistration (loaded suite : Suite) (first revision : SuiteRevision) : Prop :=
  loaded.projectId = suite.projectId ∧ loaded.name = suite.name ∧
    loaded.currentRevisionId = suite.currentRevisionId ∧
    first.sourceSpecDigest = revision.sourceSpecDigest ∧ first.configDigest = revision.configDigest

instance (loaded suite : Suite) (first revision : SuiteRevision) :
    Decidable (SameRegistration loaded suite first revision) := inferInstanceAs (Decidable (_ ∧ _))

def register (suite : Suite) : SuiteGateway (ReplayResult Suite × SuiteSession) := do
  raiseIf (suite.version ≠ 0 ∨ suite.revisions.length ≠ 1)
    (contract "suite" "not_initial_register")
  let revision ← need suite.revisions.head? (.domain (.crash .indexError))
  if s.tables.suites.any (·.id = suite.id) then
    let (loaded, s') ← s.getSuiteForUpdate suite.id
    let first ← need loaded.revisions.head? (.domain (.crash .indexError))
    raiseIf (¬ SameRegistration loaded suite first revision)
      (contract "suite_id" "already_exists")
    return (⟨loaded, true⟩, s')
  else
    let withSuite ← s.tables.insertSuite
      { id := suite.id
        projectId := suite.projectId
        name := suite.name
        status := suite.status
        version := suite.version
        createdAt := revision.createdAt
        retiredAt := none }
    let tables ← withSuite.insertRevision revision.toRow
    return (⟨suite, false⟩, { s with tables := tables, snapshot := some suite })

def requireExpected (expected : Suite) : SuiteGateway Unit :=
  raiseIf (s.snapshot ≠ some expected) (.domain (.versionConflict "suite" expected.id
    (s.snapshot.elim 0 (·.version)) expected.version))

def publishRevision (suite expected : Suite) :
    SuiteGateway (ReplayResult Suite × SuiteSession) := do
  s.requireExpected expected
  raiseIf (suite.id ≠ expected.id) (contract "suite" "suite_id_mismatch")
  raiseIf (suite.version ≠ expected.version + 1) (contract "suite" "version_not_monotonic")
  raiseIf (suite.revisions.length ≠ expected.revisions.length + 1)
    (contract "suite" "revision_count_mismatch")
  let newRevision ← need suite.revisions.getLast? (.domain (.crash .indexError))
  raiseIf (suite.revisions.dropLast ≠ expected.revisions) (contract "suite" "history_rewritten")
  let withRevision ← s.tables.insertRevision newRevision.toRow
  let tables ← withRevision.updateActive suite.id expected.version fun row =>
    { row with version := suite.version }
  return (⟨suite, false⟩, { s with tables := tables, snapshot := some suite })

def publishRetire (suite expected : Suite) :
    SuiteGateway (ReplayResult Suite × SuiteSession) := do
  s.requireExpected expected
  raiseIf (suite.id ≠ expected.id) (contract "suite" "suite_id_mismatch")
  raiseIf (suite.status ≠ .retired ∨ suite.retiredAt.isNone) (contract "suite" "not_retired")
  raiseIf (suite.version ≠ expected.version + 1) (contract "suite" "version_not_monotonic")
  raiseIf (suite.revisions ≠ expected.revisions) (contract "suite" "history_rewritten")
  let tables ← s.tables.updateActive suite.id expected.version fun row =>
    { row with
      status := .retired
      retiredAt := suite.retiredAt
      version := suite.version }
  return (⟨suite, false⟩, { s with tables := tables, snapshot := some suite })

end SuiteSession

/-- The calls of the gateway with whatever a caller passes. -/
inductive SuiteCall where
  | getSuiteForUpdate (suiteId : String)
  | register (suite : Suite)
  | publishRevision (suite expected : Suite)
  | publishRetire (suite expected : Suite)

namespace SuiteSession

/-- A registration or publication that fails aborts the session for good. -/
def settle (s : SuiteSession) (outcome : SuiteGateway (ReplayResult Suite × SuiteSession)) :
    SuiteSession :=
  match outcome with
  | .ok (_, s') => s'
  | .error _ => { s with aborted := true }

/-- The session after a call whose exception, if any, the caller swallows. -/
def perform (s : SuiteSession) : SuiteCall → SuiteSession
  | .getSuiteForUpdate suiteId =>
    match s.getSuiteForUpdate suiteId with
    | .ok (_, s') => s'
    | .error _ => s
  | .register suite => s.settle (s.register suite)
  | .publishRevision suite expected => s.settle (s.publishRevision suite expected)
  | .publishRetire suite expected => s.settle (s.publishRetire suite expected)

end SuiteSession

/-- The calls of one session, and whether an exception left it at the end. -/
structure SuiteTransaction where
  calls : List SuiteCall
  raised : Bool := false

/-- The tables a session leaves: its own when it commits, the ones it found otherwise. -/
def SuiteTables.transact (t : SuiteTables) (x : SuiteTransaction) : SuiteTables :=
  let s := x.calls.foldl SuiteSession.perform ⟨t, none, false⟩
  if x.raised ∨ s.aborted then t else s.tables

/-- The tables after sessions one after the other. -/
def SuiteTables.run (t : SuiteTables) (xs : List SuiteTransaction) : SuiteTables :=
  xs.foldl SuiteTables.transact t

end QaRunner
