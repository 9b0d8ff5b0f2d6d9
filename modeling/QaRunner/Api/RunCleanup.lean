import QaRunner.Adapters.SqliteRuns
import QaRunner.Core.Auth
import QaRunner.Lib.Claims
import QaRunner.Lib.Guarded

/-! The cleanup of old artifacts beside the requests that lock and delete runs. A cleanup claims a
run in its row before it touches the files, and a claimed run cannot be locked. -/
namespace QaRunner.RunCleanup
open Guarded Interleaving Accounts

/-- A row of the runs table: a run, and whether a cleanup has claimed it. -/
structure RunRow where
  run : Core.Run
  cleanupClaimed : Bool := false

/-- The statuses a cleanup selects. -/
def ended : Core.RunStatus → Bool
  | .completed | .failed | .timeout => true
  | _ => false

namespace RunRow

def id (row : RunRow) : String := row.run.id

def setLocked (locked : Bool) (row : RunRow) : RunRow :=
  { row with run := { row.run with locked := locked } }

def setClaimed (row : RunRow) : RunRow := { row with cleanupClaimed := true }

def setCleaned (cleaned : Bool) (row : RunRow) : RunRow where
  run := { row.run with report := if cleaned then none else row.run.report }
  cleanupClaimed := false

/-- A save that met a stored row leaves its claim too. -/
def mergeExcluded (run : Core.Run) (row : RunRow) : RunRow :=
  { row with run := run.mergeExcluded row.run }

variable {row : RunRow}

theorem setLocked_id {locked : Bool} : (row.setLocked locked).id = row.id := rfl

theorem setClaimed_id : row.setClaimed.id = row.id := rfl

theorem setCleaned_id {cleaned : Bool} : (row.setCleaned cleaned).id = row.id := rfl

theorem mergeExcluded_id {run : Core.Run} : (row.mergeExcluded run).id = row.id := rfl

/-- What a cleanup selects: finished by the cutoff, in the order of the stored texts, and neither
locked nor claimed. -/
def cleanable (cutoffIso : String) (row : RunRow) : Bool :=
  row.run.finishedAt.any (fun finishedAt => finishedAt.text ≤ cutoffIso) && !row.run.locked &&
    !row.cleanupClaimed && ended row.run.status

end RunRow

abbrev Runs := KeyedTable RunRow.id

namespace Runs

def save (runs : Runs) (run : Core.Run) : Runs :=
  runs.upsert { run := run } (RunRow.mergeExcluded run) fun _ => RunRow.mergeExcluded_id

def lockRun (runs : Runs) (runId : String) (locked : Bool) : Bool × Runs :=
  let found := fun row : RunRow => decide (row.id = runId) && !row.cleanupClaimed
  (runs.rowcount found = 1, runs.update found (RunRow.setLocked locked)
    fun _ => RunRow.setLocked_id)

def getOldUnlockedRuns (runs : Runs) (cutoffIso : String) : List Core.Run :=
  (runs.rows.filter (RunRow.cleanable cutoffIso)).map (·.run)

def claimRunCleanup (runs : Runs) (runId cutoffIso : String) : Bool × Runs :=
  let found := fun row : RunRow => decide (row.id = runId) && row.cleanable cutoffIso
  (runs.rowcount found = 1, runs.update found RunRow.setClaimed
    fun _ => RunRow.setClaimed_id)

def finishRunCleanup (runs : Runs) (runId : String) (cleaned : Bool) : Runs :=
  runs.update (fun row => decide (row.id = runId) && row.cleanupClaimed) (RunRow.setCleaned cleaned)
    fun _ => RunRow.setCleaned_id

def deleteRun (runs : Runs) (runId : String) : Runs := runs.delete (·.id = runId)

end Runs

/-- The runs table, and the files in the directory of each run that has one. -/
structure Host where
  runs : Runs
  artifacts : String → Option (List String)

namespace Host

def setRuns (s : Host) (runs : Runs) : Host := { s with runs := runs }

def setArtifacts (s : Host) (runId : String) (files : Option (List String)) : Host :=
  { s with artifacts := Function.update s.artifacts runId files }

end Host

abbrev Handler (α : Type) : Type := Prog Host ApiError α

/-- How an `rmtree` ends; `raised` is anything but an `OSError`. -/
inductive RemovalEnd where
  | removed
  | osError
  | raised
  deriving DecidableEq

/-- How an `rmtree` goes: what it leaves from time to time, and its end. -/
structure Removal where
  left : List (List String)
  ending : RemovalEnd

/-- What a removal raises is passed on; nothing looks at what it is. -/
def fail {α : Type} : Handler α := Prog.lift (.error .valueError)

def writeRuns {α : Type} (f : Runs → α × Runs) : Handler α :=
  Prog.call fun s => .ok ((f s.runs).1, s.setRuns (f s.runs).2)

def writeArtifacts (runId : String) (files : Option (List String)) : Handler Unit :=
  Prog.call fun s => .ok ((), s.setArtifacts runId files)

def removeFiles (runId : String) : List (List String) → Handler Unit
  | [] => pure ()
  | files :: left => do
    writeArtifacts runId (some files)
    removeFiles runId left

/-- The steps of a removal, with those of other requests between them. -/
def rmtree (runId : String) (removal : Removal) : Handler RemovalEnd := do
  removeFiles runId removal.left
  match removal.ending with
  | .removed => do
    writeArtifacts runId none
    return .removed
  | .osError => return .osError
  | .raised => return .raised

def runDirExists (runId : String) : Handler Bool :=
  Prog.read fun s => .ok (s.artifacts runId).isSome

/-- `finally` releases the claim, however the removal ends. -/
def finishCleanup (runId : String) (ending : RemovalEnd) : Handler ℕ := do
  writeRuns fun runs => ((), runs.finishRunCleanup runId (ending = .removed))
  match ending with
  | .removed => return 1
  | .osError => return 0
  | .raised => fail

def cleanClaimed (runId : String) (removal : Removal) (claimed : Bool) : Handler ℕ :=
  match claimed with
  | true => do
    let ending ← rmtree runId removal
    finishCleanup runId ending
  | false => return 0

def cleanExisting (runId cutoffIso : String) (removal : Removal) (present : Bool) : Handler ℕ :=
  match present with
  | true => do
    let claimed ← writeRuns (·.claimRunCleanup runId cutoffIso)
    cleanClaimed runId removal claimed
  | false => return 0

/-- One round of the loop of `cleanup_runs`; a run whose path is unsafe is skipped. -/
def cleanRun (safe : String → Bool) (runId cutoffIso : String) (removal : Removal) : Handler ℕ :=
  match safe runId with
  | true => do
    let present ← runDirExists runId
    cleanExisting runId cutoffIso removal present
  | false => return 0

def cleanRuns (safe : String → Bool) (cutoffIso : String → String) (removal : String → Removal) :
    List Core.Run → Handler ℕ
  | [] => return 0
  | run :: runs => do
    let cleaned ← cleanRun safe run.id (cutoffIso run.id) (removal run.id)
    let count ← cleanRuns safe cutoffIso removal runs
    return cleaned + count

inductive Reply where
  | run (run : Core.Run)
  | deleted (runId : String)
  | cleaned (count : ℕ)

/-- `store.get`, which raises for a run that is not there. -/
def getRun (s : Host) (runId : String) (missing : ApiError) : Except ApiError Core.Run :=
  need ((s.runs.get runId).map (·.run)) missing

def getOwnedRun (s : Host) (runId : String) (user : User) : Except ApiError Core.Run := do
  let run ← getRun s runId (.http 404 ("Run " ++ runId ++ " not found") [])
  raiseIf (user.role ≠ .admin ∧ run.createdBy ≠ user.username) (.http 403 "Access denied" [])
  return run

def lockRun (runId : String) (locked : Bool) (user : User) : Handler Reply := do
  let _ ← (Prog.read fun s => getOwnedRun s runId user : Handler Core.Run)
  let written ← writeRuns (·.lockRun runId locked)
  Prog.lift (raiseIf (written = false)
    (.http 409 "Run cleanup is in progress; retry later." []))
  let run ← (Prog.read fun s => getRun s runId .keyError : Handler Core.Run)
  return .run run

/-- A run that may be deleted, by what its row says now. -/
def deletable (s : Host) (runId : String) (user : User) : Except ApiError Unit := do
  let run ← getOwnedRun s runId user
  raiseIf (run.locked = true) (.http 409 "Run is locked; unlock it before deleting." [])
  raiseIf (run.status.inflight = true)
    (.http 409 "Run is still active; cancel it before deleting." [])

def removeDir (safe : String → Bool) (runId : String) (removal : Removal) : Handler RemovalEnd :=
  match safe runId with
  | true => do
    let present ← runDirExists runId
    match present with
    | true => rmtree runId removal
    | false => return .removed
  | false => return .removed

/-- `rmtree` ignores the errors of the system here. -/
def deleteRun (safe : String → Bool) (runId : String) (user : User) (removal : Removal) :
    Handler Reply := do
  Prog.read fun s => deletable s runId user
  let ending ← removeDir safe runId removal
  Prog.lift (raiseIf (ending = .raised) .valueError)
  writeRuns fun runs => ((), runs.deleteRun runId)
  return .deleted runId

def cleanupRuns (safe : String → Bool) (listedIso : String) (cutoffIso : String → String)
    (removal : String → Removal) : Handler Reply := do
  let runs ← (Prog.read fun s => .ok (s.runs.getOldUnlockedRuns listedIso) :
    Handler (List Core.Run))
  let count ← cleanRuns safe cutoffIso removal runs
  return .cleaned count

/-- A request of a user that the request's dependency has let through; the cutoffs are what the
clock gives at each access, the removals what the file system does. -/
inductive Request where
  | lockRun (runId : String) (locked : Bool) (user : User)
  | deleteRun (runId : String) (user : User) (removal : Removal)
  | cleanupRuns (listedIso : String) (cutoffIso : String → String) (removal : String → Removal)

def Request.handler (safe : String → Bool) : Request → Handler Reply
  | .lockRun runId locked user => RunCleanup.lockRun runId locked user
  | .deleteRun runId user removal => RunCleanup.deleteRun safe runId user removal
  | .cleanupRuns listedIso cutoffIso removal =>
    RunCleanup.cleanupRuns safe listedIso cutoffIso removal

end QaRunner.RunCleanup
