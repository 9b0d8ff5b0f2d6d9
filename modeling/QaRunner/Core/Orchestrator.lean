import QaRunner.Adapters.SqliteRuns
import QaRunner.Lib.Steps

/-! The execution of a run and its cancellation from anywhere: where task cancellation can land,
what each exit saves, and when the first outcome stored is the last. -/
namespace QaRunner.Core
open Relation

/-- What the orchestrator reads of a subprocess execution. -/
structure ProcessResult where
  exitCode : ℤ
  timedOut : Bool := false

namespace Orchestrator

/-- Where an execution is. A save in progress may have taken effect before it returns or raises. -/
inductive Phase where
  | notStarted
  /-- Inside `try`, with the result of the process once there is one. -/
  | working (run : Run) (proc : Option ProcessResult)
  | saving (run : Run) (stored : Bool)
  /-- In the handler of task cancellation. -/
  | cancelling (run : Run) (stored : Bool)
  /-- In the handler of any other exception. -/
  | failing (run : Run) (stored : Bool)
  | ended

structure State where
  runs : RunTable
  phase : Phase

inductive Action where
  | load (now : Datetime)
  | ran (proc : ProcessResult)
  | finish (summary : Option TestSummary) (report : ReportRef) (now : Datetime)
  /-- The pending await, or code after it, raises. -/
  | raise (error : String) (now : Datetime)
  /-- Task cancellation reaches the pending await. -/
  | deliver (now : Datetime)
  /-- The save in progress takes effect. -/
  | commit
  | saved
  /-- The store step of a `cancel`, of this or another replica. -/
  | cancelIfInflight (now : Datetime)

/-- The outcome of a run whose process ended, by what was collected. -/
def terminalStatus (proc : ProcessResult) (summary : Option TestSummary) : RunStatus :=
  if proc.timedOut then .timeout else if summary.isSome then .completed else .failed

def started (run : Run) (now : Datetime) : Run :=
  { run with status := .running, startedAt := some now }

def finished (run : Run) (proc : ProcessResult) (summary : Option TestSummary) (report : ReportRef)
    (now : Datetime) : Run :=
  { run with
    status := terminalStatus proc summary
    summary := summary
    report := some report
    finishedAt := some now }

/-- The error shown to the API is truncated. -/
def failed (run : Run) (error : String) (now : Datetime) : Run :=
  { run with
    status := .failed
    error := some (String.ofList (error.toList.take 2000))
    finishedAt := some now }

namespace Phase

/-- An ordinary exception makes the run fail, unless a handler is at work: that logs it. -/
def afterRaise (error : String) (now : Datetime) : Phase → Phase
  | .working run _ => .failing (failed run error now) false
  | .saving run _ => .failing (failed run error now) false
  | _ => .ended

/-- Task cancellation past the outcome comes too late: the outcome is saved, not overwritten. -/
def afterDeliver (now : Datetime) : Phase → Phase
  | .working run _ => .cancelling (run.setCancelled now) false
  | .saving run _ => .cancelling run false
  | _ => .ended

/-- The run of a save in progress, and whether the save has taken effect. -/
def pendingSave : Phase → Option (Run × Bool)
  | .saving run stored => some (run, stored)
  | .cancelling run stored => some (run, stored)
  | .failing run stored => some (run, stored)
  | _ => none

def afterCommit : Phase → Phase
  | .saving run _ => .saving run true
  | .cancelling run _ => .cancelling run true
  | .failing run _ => .failing run true
  | phase => phase

end Phase

/-- One await of the execution goes on, or a cancel reaches the store. -/
inductive Step (runId : String) : State → Action → State → Prop
  | load {runs : RunTable} {run : Run} (now : Datetime) (hget : runs.get runId = some run)
      (hinflight : run.status.inflight = true) :
      Step runId ⟨runs, .notStarted⟩ (.load now) ⟨runs, .working (started run now) none⟩
  | skip {runs : RunTable} {run : Run} (now : Datetime) (hget : runs.get runId = some run)
      (hterminal : run.status.inflight = false) :
      Step runId ⟨runs, .notStarted⟩ (.load now) ⟨runs, .ended⟩
  | ran {runs : RunTable} {run : Run} (proc : ProcessResult) :
      Step runId ⟨runs, .working run none⟩ (.ran proc)
        ⟨runs, .working { run with exitCode := some proc.exitCode } (some proc)⟩
  | finish {runs : RunTable} {run : Run} {proc : ProcessResult} (summary : Option TestSummary)
      (report : ReportRef) (now : Datetime) :
      Step runId ⟨runs, .working run (some proc)⟩ (.finish summary report now)
        ⟨runs, .saving (finished run proc summary report now) false⟩
  | raise {runs : RunTable} {phase : Phase} (error : String) (now : Datetime) :
      Step runId ⟨runs, phase⟩ (.raise error now) ⟨runs, phase.afterRaise error now⟩
  | deliver {runs : RunTable} {phase : Phase} (now : Datetime) :
      Step runId ⟨runs, phase⟩ (.deliver now) ⟨runs, phase.afterDeliver now⟩
  | commit {runs : RunTable} {phase : Phase} {run : Run}
      (hsave : phase.pendingSave = some (run, false)) :
      Step runId ⟨runs, phase⟩ .commit ⟨runs.save run, phase.afterCommit⟩
  | saved {runs : RunTable} {phase : Phase} {run : Run}
      (hsave : phase.pendingSave = some (run, true)) :
      Step runId ⟨runs, phase⟩ .saved ⟨runs, .ended⟩
  | cancelIfInflight {runs : RunTable} {phase : Phase} (now : Datetime) :
      Step runId ⟨runs, phase⟩ (.cancelIfInflight now) ⟨(runs.cancelIfInflight runId now).2, phase⟩

/-- The status that the store shows of the run. -/
def State.status (runId : String) (s : State) : Option RunStatus :=
  (s.runs.get runId).map (·.status)

/-- Queued or running, as the store has it. -/
def State.InFlight (runId : String) (s : State) : Prop :=
  ∃ status, s.status runId = some status ∧ status.inflight = true

/-- The execution has an outcome of its own, and not ended. -/
def Phase.OutcomeReached : Phase → Prop
  | .saving _ _ => True
  | .failing _ _ => True
  | .cancelling run _ => run.status ≠ .cancelled
  | _ => False

/-- The execution reaches its outcome while the stored run is in flight, a cancel finds it in flight
only when no outcome is reached, and the save of the outcome does not raise after it took effect. -/
def Orderly (runId : String) (s : State) : Action → Prop
  | .finish _ _ _ => s.InFlight runId
  | .raise _ _ =>
    match s.phase with
    | .working _ _ => s.InFlight runId
    | .saving _ stored => stored = false
    | _ => True
  | .cancelIfInflight _ => s.phase.OutcomeReached → ¬ s.InFlight runId
  | _ => True

/-- Steps in any order. -/
def Runs (runId : String) : State → State → Prop :=
  ReflTransGen fun s t => ∃ a, Step runId s a t

def OrderlyRuns (runId : String) : State → State → Prop :=
  ReflTransGen fun s t => ∃ a, Orderly runId s a ∧ Step runId s a t

variable {runId : String} {s t : State} {a : Action} {runs : RunTable} {run : Run} {phase : Phase}
  {status : RunStatus} {stored : Bool} {now : Datetime}

/-- What is stored agrees with what the execution is going to save. -/
def Settled (runId : String) (s : State) : Prop :=
  match s.phase with
  | .working run _ => run.id = runId ∧ (s.InFlight runId ∨ s.status runId = some .cancelled)
  | .saving run stored => run.id = runId ∧ run.status.inflight = false ∧ run.status ≠ .cancelled ∧
      (stored = false ∧ s.InFlight runId ∨ stored = true ∧ s.status runId = some run.status)
  | .cancelling run _ => run.id = runId ∧ (s.InFlight runId ∨ s.status runId = some run.status)
  | .failing run stored => run.id = runId ∧
      (stored = false ∧ s.InFlight runId ∨ stored = true ∧ s.status runId = some run.status)
  | _ => True

theorem terminalStatus_not_inflight (proc : ProcessResult) (summary : Option TestSummary) :
    (terminalStatus proc summary).inflight = false ∧ terminalStatus proc summary ≠ .cancelled := by
  unfold terminalStatus
  split
  · exact ⟨rfl, by decide⟩
  · split
    · exact ⟨rfl, by decide⟩
    · exact ⟨rfl, by decide⟩

theorem status_save (hid : run.id = runId) :
    State.status runId ⟨runs.save run, phase⟩ = some run.status := by
  subst hid
  exact RunTable.status_save

theorem status_cancelIfInflight :
    State.status runId ⟨(runs.cancelIfInflight runId now).2, phase⟩ =
      (State.status runId ⟨runs, phase⟩).map fun status =>
        if status.inflight then .cancelled else status := by
  unfold State.status
  rw [RunTable.get_cancelIfInflight]
  cases runs.get runId with
  | none => rfl
  | some run =>
    simp only [Option.map_some]
    split <;> rfl

theorem not_inFlight (h : s.status runId = some status) (hterminal : status.inflight = false) :
    ¬ s.InFlight runId := by
  rintro ⟨status', h', hinflight⟩
  rw [h] at h'
  cases h'
  rw [hterminal] at hinflight
  cases hinflight

/-- A cancel leaves a terminal status, and what it finds in flight it makes cancelled. -/
theorem cancelIfInflight_cases (runId : String) (runs : RunTable) (phase : Phase) (now : Datetime) :
    State.status runId ⟨(runs.cancelIfInflight runId now).2, phase⟩ =
        State.status runId ⟨runs, phase⟩ ∨ State.InFlight runId ⟨runs, phase⟩ ∧
        State.status runId ⟨(runs.cancelIfInflight runId now).2, phase⟩ = some .cancelled := by
  rw [status_cancelIfInflight]
  cases h : State.status runId ⟨runs, phase⟩ with
  | none => exact Or.inl rfl
  | some status =>
    by_cases hinflight : status.inflight = true
    · right
      exact ⟨⟨status, h, hinflight⟩, by simp [hinflight]⟩
    · left
      simp [hinflight]

/-- The status is kept if it is terminal. -/
def Keeps (runId : String) (s t : State) : Prop :=
  ∀ status, s.status runId = some status → status.inflight = false → t.status runId = some status

/-- The run of a save that has not taken effect is stored in flight or with the saved status. -/
theorem Settled.pendingSave (h : Settled runId ⟨runs, phase⟩)
    (hsave : phase.pendingSave = some (run, false)) : run.id = runId ∧
      (State.InFlight runId ⟨runs, phase⟩ ∨
        State.status runId ⟨runs, phase⟩ = some run.status) := by
  cases phase with
  | saving r stored =>
    cases hsave
    obtain ⟨hid, -, -, hstored⟩ := h
    refine ⟨hid, ?_⟩
    rcases hstored with ⟨-, hinflight⟩ | ⟨hfalse, -⟩
    · exact Or.inl hinflight
    · cases hfalse
  | cancelling r stored =>
    cases hsave
    exact h
  | failing r stored =>
    cases hsave
    obtain ⟨hid, hstored⟩ := h
    refine ⟨hid, ?_⟩
    rcases hstored with ⟨-, hinflight⟩ | ⟨hfalse, -⟩
    · exact Or.inl hinflight
    · cases hfalse
  | notStarted => cases hsave
  | working r proc => cases hsave
  | ended => cases hsave

theorem Settled.commit (h : Settled runId ⟨runs, phase⟩)
    (hsave : phase.pendingSave = some (run, false)) :
    Settled runId ⟨runs.save run, phase.afterCommit⟩ := by
  obtain ⟨hid, -⟩ := h.pendingSave hsave
  have hstatus : ∀ phase, State.status runId ⟨runs.save run, phase⟩ = some run.status :=
    fun _ => status_save hid
  cases phase with
  | saving r stored =>
    cases hsave
    exact ⟨hid, h.2.1, h.2.2.1, Or.inr ⟨rfl, hstatus _⟩⟩
  | cancelling r stored =>
    cases hsave
    exact ⟨hid, Or.inr (hstatus _)⟩
  | failing r stored =>
    cases hsave
    exact ⟨hid, Or.inr ⟨rfl, hstatus _⟩⟩
  | notStarted => cases hsave
  | working r proc => cases hsave
  | ended => cases hsave

theorem Settled.raise (h : Settled runId ⟨runs, phase⟩) {error : String}
    (horderly : Orderly runId ⟨runs, phase⟩ (.raise error now)) :
    Settled runId ⟨runs, phase.afterRaise error now⟩ := by
  cases phase with
  | working run proc => exact ⟨h.1, Or.inl ⟨rfl, horderly⟩⟩
  | saving run stored =>
    obtain ⟨hid, -, -, hstored⟩ := h
    have hunsaved : stored = false := horderly
    subst hunsaved
    refine ⟨hid, Or.inl ⟨rfl, ?_⟩⟩
    rcases hstored with ⟨-, hinflight⟩ | ⟨hfalse, -⟩
    · exact hinflight
    · cases hfalse
  | notStarted => trivial
  | cancelling run stored => trivial
  | failing run stored => trivial
  | ended => trivial

theorem Settled.deliver (h : Settled runId ⟨runs, phase⟩) :
    Settled runId ⟨runs, phase.afterDeliver now⟩ := by
  cases phase with
  | working run proc => exact h
  | saving run stored =>
    obtain ⟨hid, -, -, hstored⟩ := h
    refine ⟨hid, ?_⟩
    rcases hstored with ⟨-, hinflight⟩ | ⟨-, hstatus⟩
    · exact Or.inl hinflight
    · exact Or.inr hstatus
  | notStarted => trivial
  | cancelling run stored => trivial
  | failing run stored => trivial
  | ended => trivial

/-- Only the status of what is stored counts. -/
theorem Settled.of_status {runs' : RunTable} (h : Settled runId ⟨runs, phase⟩)
    (hsame : State.status runId ⟨runs', phase⟩ = State.status runId ⟨runs, phase⟩) :
    Settled runId ⟨runs', phase⟩ := by
  have hflight : State.InFlight runId ⟨runs', phase⟩ ↔ State.InFlight runId ⟨runs, phase⟩ := by
    unfold State.InFlight
    rw [hsame]
  cases phase with
  | working run proc =>
    refine ⟨h.1, ?_⟩
    rw [hflight, hsame]
    exact h.2
  | saving run stored =>
    refine ⟨h.1, h.2.1, h.2.2.1, ?_⟩
    rw [hflight, hsame]
    exact h.2.2.2
  | cancelling run stored =>
    refine ⟨h.1, ?_⟩
    rw [hflight, hsame]
    exact h.2
  | failing run stored =>
    refine ⟨h.1, ?_⟩
    rw [hflight, hsame]
    exact h.2
  | notStarted => trivial
  | ended => trivial

theorem Settled.cancelIfInflight (h : Settled runId ⟨runs, phase⟩)
    (horderly : Orderly runId ⟨runs, phase⟩ (.cancelIfInflight now)) :
    Settled runId ⟨(runs.cancelIfInflight runId now).2, phase⟩ := by
  rcases cancelIfInflight_cases runId runs phase now with hsame | ⟨hinflight, hcancelled⟩
  · exact h.of_status hsame
  · have hnone : ¬ phase.OutcomeReached := fun hreached => horderly hreached hinflight
    cases phase with
    | working run proc => exact ⟨h.1, Or.inr hcancelled⟩
    | saving run stored => exact absurd trivial hnone
    | failing run stored => exact absurd trivial hnone
    | cancelling run stored =>
      have hstatus : run.status = .cancelled := by
        by_contra hne
        exact hnone hne
      refine ⟨h.1, Or.inr ?_⟩
      rw [hstatus]
      exact hcancelled
    | notStarted => trivial
    | ended => trivial

theorem Settled.step (h : Settled runId s) (horderly : Orderly runId s a)
    (hs : Step runId s a t) : Settled runId t := by
  cases hs with
  | @load runs run now hget hinflight =>
    have hid : run.id = runId := KeyedTable.key_of_get hget
    refine ⟨hid, Or.inl ⟨run.status, ?_, hinflight⟩⟩
    show (runs.get runId).map (·.status) = some run.status
    rw [hget]
    rfl
  | skip now hget hterminal => trivial
  | ran proc => exact h
  | @finish runs run proc summary report now =>
    obtain ⟨hterminal, hne⟩ := terminalStatus_not_inflight proc summary
    exact ⟨h.1, hterminal, hne, Or.inl ⟨rfl, horderly⟩⟩
  | raise error now => exact h.raise horderly
  | deliver now => exact h.deliver
  | commit hsave => exact h.commit hsave
  | saved hsave => trivial
  | cancelIfInflight now => exact h.cancelIfInflight horderly

/-- Of what is settled no step changes a terminal status. -/
theorem Settled.keeps (h : Settled runId s) (hs : Step runId s a t) : Keeps runId s t := by
  intro status hstatus hterminal
  cases hs with
  | load now hget hinflight => exact hstatus
  | skip now hget hterminal => exact hstatus
  | ran proc => exact hstatus
  | finish summary report now => exact hstatus
  | raise error now => exact hstatus
  | deliver now => exact hstatus
  | @commit runs phase run hsave =>
    obtain ⟨hid, hstored⟩ := h.pendingSave hsave
    rcases hstored with hinflight | hsame
    · exact absurd hinflight (not_inFlight hstatus hterminal)
    · rw [status_save hid, ← hsame]
      exact hstatus
  | saved hsave => exact hstatus
  | cancelIfInflight now =>
    rw [status_cancelIfInflight, hstatus, Option.map_some, hterminal]
    rfl

theorem Settled.after (h : Settled runId s) (hrun : OrderlyRuns runId s t) : Settled runId t := by
  apply Steps.invariant hrun _ h
  rintro s t hsettled ⟨a, horderly, hstep⟩
  exact hsettled.step horderly hstep

theorem Settled.keeps_after (h : Settled runId s) (hrun : OrderlyRuns runId s t) :
    Keeps runId s t := by
  refine Steps.related hrun ?_ (fun _ _ hstatus _ => hstatus) ?_ ?_ h
  · rintro s t hsettled ⟨a, horderly, hstep⟩
    exact hsettled.step horderly hstep
  · intro s t u hst htu status hstatus hterminal
    exact htu status (hst status hstatus hterminal) hterminal
  · rintro s t hsettled ⟨a, -, hstep⟩
    exact hsettled.keeps hstep

/-- In runs whose steps are orderly, a terminal status that the store shows of the run stays. -/
theorem finished_run_keeps_outcome {s₀ : State} (hstart : s₀.phase = .notStarted)
    (hreached : OrderlyRuns runId s₀ s) (hlater : OrderlyRuns runId s t)
    (hstatus : s.status runId = some status)
    (hterminal : status ∈ [.completed, .failed, .timeout, .cancelled]) :
    t.status runId = some status := by
  have hinitial : Settled runId s₀ := by
    unfold Settled
    rw [hstart]
    trivial
  have hsettled := hinitial.after hreached
  apply hsettled.keeps_after hlater status hstatus
  cases status with
  | queued => simp at hterminal
  | running => simp at hterminal
  | completed => rfl
  | failed => rfl
  | timeout => rfl
  | cancelled => rfl

def dequeuedRun : Run where
  id := "run-1"
  status := .running
  runner := "pytest"
  createdBy := "admin"
  testsPath := "suite"
  createdAt := ⟨63082281600000000, some 0⟩

def dequeuedStart : State := ⟨⟨[dequeuedRun], List.nodup_singleton _⟩, .notStarted⟩

def dequeuedWorking : Run := started dequeuedRun ⟨63082281600000001, some 0⟩

/-- The run as the execution that passed saves it. -/
def dequeuedPassed : Run :=
  finished { dequeuedWorking with exitCode := some 0 } ⟨0, false⟩ (some ⟨1, 1, 0, 0, 0, 5⟩)
    ⟨"artifacts/run-1/results", none, false⟩ ⟨63082281600000009, some 0⟩

/-- Another replica has cancelled the run while it executes. -/
def cancelledElsewhere : State :=
  ⟨(dequeuedStart.runs.cancelIfInflight "run-1" ⟨63082281600000005, some 0⟩).2,
    .working dequeuedWorking none⟩

theorem dequeued_loaded : Step "run-1" dequeuedStart (.load ⟨63082281600000001, some 0⟩)
    ⟨dequeuedStart.runs, .working dequeuedWorking none⟩ := .load _ rfl rfl

theorem cancelled_elsewhere : Step "run-1" ⟨dequeuedStart.runs, .working dequeuedWorking none⟩
    (.cancelIfInflight ⟨63082281600000005, some 0⟩) cancelledElsewhere := .cancelIfInflight _

/-- The execution saves over the cancelled run. -/
theorem cancelled_run_completed : ∃ s t, Runs "run-1" dequeuedStart s ∧ Runs "run-1" s t ∧
    s.status "run-1" = some .cancelled ∧ t.status "run-1" = some .completed := by
  have hran : Step "run-1" cancelledElsewhere (.ran ⟨0, false⟩)
      ⟨cancelledElsewhere.runs, .working { dequeuedWorking with exitCode := some 0 }
        (some ⟨0, false⟩)⟩ := .ran _
  have hfinish : Step "run-1" ⟨cancelledElsewhere.runs,
      .working { dequeuedWorking with exitCode := some 0 } (some ⟨0, false⟩)⟩
      (.finish (some ⟨1, 1, 0, 0, 0, 5⟩) ⟨"artifacts/run-1/results", none, false⟩
        ⟨63082281600000009, some 0⟩)
      ⟨cancelledElsewhere.runs, .saving dequeuedPassed false⟩ := .finish _ _ _
  have hcommit : Step "run-1" ⟨cancelledElsewhere.runs, .saving dequeuedPassed false⟩ .commit
      ⟨cancelledElsewhere.runs.save dequeuedPassed, .saving dequeuedPassed true⟩ := .commit rfl
  exact ⟨cancelledElsewhere, _, .tail (.single ⟨_, dequeued_loaded⟩) ⟨_, cancelled_elsewhere⟩,
    .tail (.tail (.single ⟨_, hran⟩) ⟨_, hfinish⟩) ⟨_, hcommit⟩, rfl, rfl⟩

/-- The run as the execution saves it when task cancellation reaches it in time. -/
def dequeuedCancelled : Run := dequeuedWorking.setCancelled ⟨63082281600000006, some 0⟩

theorem finished_run_keeps_outcome_cancelled : State.status "run-1"
    ⟨cancelledElsewhere.runs.save dequeuedCancelled, .cancelling dequeuedCancelled true⟩ =
      some .cancelled := by
  have hdeliver : Step "run-1" cancelledElsewhere (.deliver ⟨63082281600000006, some 0⟩)
      ⟨cancelledElsewhere.runs, .cancelling dequeuedCancelled false⟩ := .deliver _
  have hcommit : Step "run-1" ⟨cancelledElsewhere.runs, .cancelling dequeuedCancelled false⟩ .commit
      ⟨cancelledElsewhere.runs.save dequeuedCancelled, .cancelling dequeuedCancelled true⟩ :=
    .commit rfl
  have hunreached : Orderly "run-1" ⟨dequeuedStart.runs, .working dequeuedWorking none⟩
      (.cancelIfInflight ⟨63082281600000005, some 0⟩) := fun hreached => hreached.elim
  have hreached : OrderlyRuns "run-1" dequeuedStart cancelledElsewhere :=
    .tail (.single ⟨.load ⟨63082281600000001, some 0⟩, trivial, dequeued_loaded⟩)
      ⟨_, hunreached, cancelled_elsewhere⟩
  have hlater : OrderlyRuns "run-1" cancelledElsewhere
      ⟨cancelledElsewhere.runs.save dequeuedCancelled, .cancelling dequeuedCancelled true⟩ :=
    .tail (.single ⟨.deliver ⟨63082281600000006, some 0⟩, trivial, hdeliver⟩)
      ⟨.commit, trivial, hcommit⟩
  exact finished_run_keeps_outcome rfl hreached hlater rfl (by simp)

end Orchestrator
end QaRunner.Core
