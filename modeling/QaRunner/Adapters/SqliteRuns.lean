import QaRunner.Lib.InstantText
import QaRunner.Lib.KeyedTable
import QaRunner.Lib.Sorting
import Mathlib.Data.Prod.Lex
import Mathlib.Data.String.Basic

/-! Run records of the store: the upsert that an execution saves with, and the updates that look at
the stored status. -/
namespace QaRunner.Core

/-- Lifecycle states for a test run. -/
inductive RunStatus where
  | queued
  | running
  | completed
  | failed
  | timeout
  | cancelled
  deriving DecidableEq

/-- The run has neither finished nor been cancelled. -/
def RunStatus.inflight : RunStatus → Bool
  | .queued | .running => true
  | _ => false

/-- Aggregate counts from a test run. -/
structure TestSummary where
  total : ℤ
  passed : ℤ
  failed : ℤ
  skipped : ℤ
  error : ℤ
  durationMs : ℤ

/-- Reference to allure report artifacts. -/
structure ReportRef where
  allureResultsDir : String
  allureReportFile : Option String := none
  htmlGenerated : Bool := false

/-- A single test run record. -/
structure Run where
  id : String
  status : RunStatus
  runner : String
  createdBy : String
  testsPath : String
  args : List String := []
  allureEnabled : Bool := true
  timeout : Option ℤ := none
  executorMode : String := "docker"
  summary : Option TestSummary := none
  report : Option ReportRef := none
  exitCode : Option ℤ := none
  error : Option String := none
  createdAt : Datetime
  startedAt : Option Datetime := none
  finishedAt : Option Datetime := none
  env : List (String × String) := []
  locked : Bool := false
  workerNodeId : Option String := none
  profileId : Option String := none

/-- `DO UPDATE SET` of a save that met a stored row: every column but `locked`. -/
def Run.mergeExcluded (excluded stored : Run) : Run :=
  { excluded with id := stored.id, locked := stored.locked }

def Run.setCancelled (run : Run) (finishedAt : Datetime) : Run :=
  { run with status := .cancelled, finishedAt := some finishedAt }

theorem Run.mergeExcluded_id {excluded stored : Run} :
    (excluded.mergeExcluded stored).id = stored.id := rfl

theorem Run.setCancelled_id {run : Run} {finishedAt : Datetime} :
    (run.setCancelled finishedAt).id = run.id := rfl

def Run.setRunning (run : Run) (startedAt : Datetime) : Run :=
  { run with status := .running, startedAt := some startedAt }

theorem Run.setRunning_id {run : Run} {startedAt : Datetime} :
    (run.setRunning startedAt).id = run.id := rfl

abbrev RunTable := KeyedTable Run.id

namespace RunTable

/-- Row-preserving upsert that omits `locked` from the conflict update. -/
def save (runs : RunTable) (run : Run) : RunTable :=
  runs.upsert run run.mergeExcluded fun _ => Run.mergeExcluded_id

/-- Set CANCELLED only if the run is still queued or running; whether it was. -/
def cancelIfInflight (runs : RunTable) (runId : String) (finishedAt : Datetime) : Bool × RunTable :=
  let found := fun run : Run => decide (run.id = runId) && run.status.inflight
  (0 < runs.rowcount found, runs.update found (·.setCancelled finishedAt)
    fun _ => Run.setCancelled_id)

/-- The first queued run by the text of its creation and its id. -/
def oldestQueued (runs : RunTable) : Option Run :=
  (Sorting.sortOn (fun run : Run => toLex (run.createdAt.text, run.id))
    (runs.rows.filter fun run => run.status = .queued)).head?

/-- Claim the oldest queued run, marking it RUNNING. -/
def dequeueNextQueued (runs : RunTable) (now : Datetime) : Option (String × RunTable) :=
  runs.oldestQueued.map fun oldest =>
    (oldest.id, runs.update (fun run => run.id = oldest.id) (·.setRunning now)
      fun _ => Run.setRunning_id)

variable {runs : RunTable} {run stored : Run} {runId k : String} {finishedAt : Datetime}

theorem get_save_self :
    (runs.save run).get run.id = some ((runs.get run.id).elim run run.mergeExcluded) :=
  KeyedTable.get_upsert_self _

/-- What is stored after a save has the saved status. -/
theorem status_save : ((runs.save run).get run.id).map (·.status) = some run.status := by
  rw [get_save_self]
  cases runs.get run.id <;> rfl

theorem get_cancelIfInflight : (runs.cancelIfInflight runId finishedAt).2.get runId =
    (runs.get runId).map fun run =>
      if run.status.inflight then run.setCancelled finishedAt else run := by
  rw [cancelIfInflight, KeyedTable.get_update]
  cases h : runs.get runId with
  | none => rfl
  | some run =>
    have hid := KeyedTable.key_of_get h
    simp [hid]

theorem oldestQueued_eq_some (h : runs.oldestQueued = some run) :
    run ∈ runs.rows ∧ run.status = .queued := by
  have hmem := Sorting.mem_sortOn.mp (List.mem_of_mem_head? h)
  obtain ⟨hrow, hqueued⟩ := List.mem_filter.mp hmem
  exact ⟨hrow, of_decide_eq_true hqueued⟩

/-- The claimed run was queued and is marked RUNNING. -/
theorem dequeueNextQueued_eq_some {runs' : RunTable} {now : Datetime}
    (h : runs.dequeueNextQueued now = some (runId, runs')) :
    (runs.get runId).map (·.status) = some .queued ∧
      (runs'.get runId).map (·.status) = some .running := by
  obtain ⟨oldest, holdest, heq⟩ := Option.map_eq_some_iff.mp h
  cases heq
  obtain ⟨hrow, hqueued⟩ := oldestQueued_eq_some holdest
  have hget := KeyedTable.get_of_mem hrow
  constructor
  · rw [hget, Option.map_some, hqueued]
  · rw [KeyedTable.get_update, hget]
    simp [Run.setRunning]

end RunTable
end QaRunner.Core
