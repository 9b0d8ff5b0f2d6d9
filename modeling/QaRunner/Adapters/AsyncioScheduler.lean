import QaRunner.Adapters.SqliteRuns
import QaRunner.Lib.Slots
import QaRunner.Lib.Steps

/-! The scheduler that hands queued runs to their executions under a bounded number of slots, its
poller, and what becomes of slots and runs when it is shut down and started again. -/
namespace QaRunner.AsyncioScheduler
open QaRunner.Core Relation

/-- A poller at one of its awaits. -/
inductive Poller where
  /-- Created, and not yet run. -/
  | fresh
  | acquiring
  /-- Owns a slot and awaits the store, which has not claimed a run for it. -/
  | dequeuing
  /-- Owns a slot and awaits the store, which has marked the run RUNNING. -/
  | claimed (runId : String)
  | sleeping
  | ended
  deriving DecidableEq

namespace Poller

def slots : Poller → ℕ
  | .dequeuing => 1
  | .claimed _ => 1
  | _ => 0

/-- The run that the store claimed for it. -/
def inHand : Poller → List String
  | .claimed runId => [runId]
  | _ => []

/-- The test of the loop, on the way to the next slot. -/
def loop (running : Bool) : Poller := if running then .acquiring else .ended

end Poller

/-- An execution, until its done callback has run. -/
structure Task where
  no : ℕ
  runId : String
  done : Bool := false
  deriving DecidableEq

/-- The scheduler, the runs of the store, and what only an observer keeps: the ids that its dequeues
marked RUNNING and those passed to `run_fn`. -/
structure State where
  running : Bool
  free : ℕ
  pollers : List Poller
  pollerTask : Option ℕ
  tasks : List Task
  keyed : String → Option ℕ
  wakeEvent : Bool
  runs : RunTable
  marked : List String
  passed : List String

inductive Action where
  | start
  | shutdown
  | shutdownDone (k : ℕ)
  | enqueue
  | cancel (key : String)
  | turn (k : ℕ)
  | acquire (k : ℕ)
  | dequeue (k : ℕ) (now : Datetime)
  /-- The call of the store raises. -/
  | raise (k : ℕ)
  | spawn (k : ℕ)
  /-- Task cancellation reaches a poller. -/
  | deliver (k : ℕ)
  | complete (task : Task)
  | taskDone (task : Task)
  /-- Anything that others do to the runs of the store. -/
  | store (runs : RunTable)

namespace State

def setPoller (s : State) (k : ℕ) (poller : Poller) : State :=
  { s with pollers := s.pollers.set k poller }

/-- Back from a dequeue without a run: release the slot, and sleep until woken. -/
def release (s : State) (k : ℕ) : State :=
  { s.setPoller k .sleeping with free := s.free + 1, wakeEvent := false }

/-- Own a slot and a run: start its execution. -/
def spawn (s : State) (k : ℕ) (no : ℕ) (runId : String) : State :=
  { s.setPoller k (.loop s.running) with
    tasks := s.tasks ++ [⟨no, runId, false⟩]
    keyed := Function.update s.keyed runId (some no)
    passed := s.passed ++ [runId] }

/-- Drop references to the task and release its slot. -/
def onTaskDone (s : State) (task : Task) : State :=
  { s with
    tasks := s.tasks.erase task
    keyed := fun key => if s.keyed key = some task.no then none else s.keyed key
    free := s.free + 1 }

/-- Whether a live task was found and cancelled. -/
def cancel (s : State) (key : String) : Bool :=
  (s.keyed key).any fun no => s.tasks.any fun task => task.no = no ∧ task.done = false

/-- The poller that the scheduler refers to is cancelled at the await it is at. -/
def cancelPoller (s : State) : State :=
  match s.pollerTask with
  | some k => s.setPoller k .ended
  | none => s

end State

/-- One operation of the scheduler, or what its tasks do between two awaits. -/
inductive Step : State → Action → State → Prop
  | start {s : State} (hstopped : s.running = false) :
      Step s .start { s with
        running := true
        pollers := s.pollers ++ [.fresh]
        pollerTask := some s.pollers.length }
  | startAgain {s : State} (hrunning : s.running = true) : Step s .start s
  | shutdown {s : State} :
      Step s .shutdown { s.cancelPoller with running := false, wakeEvent := true }
  | shutdownDone {s : State} {k : ℕ} (hended : s.pollers[k]? = some .ended) :
      Step s (.shutdownDone k) { s with pollerTask := none }
  | enqueue {s : State} : Step s .enqueue { s with wakeEvent := true }
  | cancel {s : State} (key : String) : Step s (.cancel key) s
  | turn {s : State} {k : ℕ} {poller : Poller} (hpoller : s.pollers[k]? = some poller)
      (hat : poller = .fresh ∨ poller = .sleeping) :
      Step s (.turn k) (s.setPoller k (.loop s.running))
  | acquire {s : State} {k free : ℕ} (hpoller : s.pollers[k]? = some .acquiring)
      (hfree : s.free = free + 1) :
      Step s (.acquire k) { s.setPoller k .dequeuing with free := free }
  | dequeue {s : State} {k : ℕ} {now : Datetime} {runId : String} {runs : RunTable}
      (hpoller : s.pollers[k]? = some .dequeuing)
      (hrun : s.runs.dequeueNextQueued now = some (runId, runs)) :
      Step s (.dequeue k now)
        { s.setPoller k (.claimed runId) with runs := runs, marked := s.marked ++ [runId] }
  | empty {s : State} {k : ℕ} {now : Datetime} (hpoller : s.pollers[k]? = some .dequeuing)
      (hnone : s.runs.dequeueNextQueued now = none) : Step s (.dequeue k now) (s.release k)
  | raise {s : State} {k : ℕ} {poller : Poller} (hpoller : s.pollers[k]? = some poller)
      (hslot : poller.slots = 1) : Step s (.raise k) (s.release k)
  | spawn {s : State} {k no : ℕ} {runId : String} (hpoller : s.pollers[k]? = some (.claimed runId))
      (hno : ∀ task ∈ s.tasks, task.no ≠ no) : Step s (.spawn k) (s.spawn k no runId)
  | deliver {s : State} (k : ℕ) : Step s (.deliver k) (s.setPoller k .ended)
  | complete {s : State} {task : Task} (hlive : task ∈ s.tasks) (hrunning : task.done = false) :
      Step s (.complete task) { s with tasks := s.tasks.map fun other =>
        if other = task then { task with done := true } else other }
  | taskDone {s : State} {task : Task} (hlive : task ∈ s.tasks) (hdone : task.done = true) :
      Step s (.taskDone task) (s.onTaskDone task)
  | store {s : State} (runs : RunTable) : Step s (.store runs) { s with runs := runs }

/-- Before the first start, with all slots free. -/
structure Initial (maxConcurrency : ℕ) (s : State) : Prop where
  free : s.free = maxConcurrency
  pollers : s.pollers = []
  tasks : s.tasks = []
  marked : s.marked = []
  passed : s.passed = []

/-- The poller, if there is one, is not awaiting the store with a slot. -/
def NotDequeuing (s : State) (k : ℕ) : Prop :=
  ∀ poller, s.pollers[k]? = some poller → poller.slots = 0

/-- No cancellation reaches a poller that awaits a dequeue, and no dequeue raises after the store
has marked the run. -/
def Gentle (s : State) : Action → Prop
  | .shutdown => ∀ k, s.pollerTask = some k → NotDequeuing s k
  | .deliver k => NotDequeuing s k
  | .raise k => ∀ runId, s.pollers[k]? ≠ some (.claimed runId)
  | _ => True

def Runs : State → State → Prop := ReflTransGen fun s t => ∃ a, Step s a t

def GentleRuns : State → State → Prop := ReflTransGen fun s t => ∃ a, Gentle s a ∧ Step s a t

/-- Slots held by pollers. -/
def State.held (s : State) : ℕ := (s.pollers.map Poller.slots).sum

/-- Runs claimed for pollers and not yet passed on. -/
def State.inHand (s : State) : List String := s.pollers.flatMap Poller.inHand

/-- Every slot is free, with a poller or with a task, and every claimed run is in hand or passed. -/
structure Conserved (maxConcurrency : ℕ) (s : State) : Prop where
  slots : s.free + s.held + s.tasks.length = maxConcurrency
  runs : s.marked.Perm (s.passed ++ s.inHand)

variable {s t : State} {a : Action} {maxConcurrency k : ℕ} {poller next : Poller} {runId : String}

theorem Poller.loop_slots (running : Bool) : (Poller.loop running).slots = 0 := by
  cases running <;> rfl

theorem Poller.loop_inHand (running : Bool) : (Poller.loop running).inHand = [] := by
  cases running <;> rfl

theorem Poller.inHand_of_slots (h : poller.slots = 0) : poller.inHand = [] := by
  cases poller with
  | claimed runId => cases h
  | dequeuing => rfl
  | fresh => rfl
  | acquiring => rfl
  | sleeping => rfl
  | ended => rfl

theorem held_setPoller (next : Poller) (h : s.pollers[k]? = some poller) :
    (s.setPoller k next).held + poller.slots = s.held + next.slots :=
  Slots.sum_set Poller.slots h

theorem inHand_setPoller (next : Poller) (h : s.pollers[k]? = some poller) :
    ((s.setPoller k next).inHand ++ poller.inHand).Perm (s.inHand ++ next.inHand) :=
  Slots.flatMap_set_perm Poller.inHand h

theorem held_congr (h : t.pollers = s.pollers) : t.held = s.held := by
  rw [State.held, State.held, h]

theorem inHand_congr (h : t.pollers = s.pollers) : t.inHand = s.inHand := by
  rw [State.inHand, State.inHand, h]

/-- A step that leaves what is counted. -/
theorem Conserved.of_same (h : Conserved maxConcurrency s) (hfree : t.free = s.free)
    (hheld : t.held = s.held) (htasks : t.tasks.length = s.tasks.length)
    (hmarked : t.marked = s.marked) (hpassed : t.passed = s.passed)
    (hinHand : t.inHand = s.inHand) : Conserved maxConcurrency t := by
  constructor
  · rw [hfree, hheld, htasks]
    exact h.slots
  · rw [hmarked, hpassed, hinHand]
    exact h.runs

/-- A poller without a slot goes on without one, or ends. -/
theorem Conserved.setPoller (h : Conserved maxConcurrency s)
    (hidle : ∀ poller, s.pollers[k]? = some poller → poller.slots = 0) (hnext : next.slots = 0) :
    Conserved maxConcurrency (s.setPoller k next) := by
  cases hpoller : s.pollers[k]? with
  | none =>
    have hsame : s.pollers.set k next = s.pollers :=
      List.set_eq_of_length_le (List.getElem?_eq_none_iff.mp hpoller)
    exact h.of_same rfl (held_congr hsame) rfl rfl rfl (inHand_congr hsame)
  | some poller =>
    have hslots := hidle poller hpoller
    have hheld := held_setPoller next hpoller
    have hinHand := inHand_setPoller next hpoller
    rw [Poller.inHand_of_slots hslots, Poller.inHand_of_slots hnext, List.append_nil,
      List.append_nil] at hinHand
    constructor
    · have := h.slots
      show s.free + (s.setPoller k next).held + s.tasks.length = maxConcurrency
      omega
    · exact h.runs.trans (hinHand.symm.append_left _)

theorem Conserved.release (h : Conserved maxConcurrency s)
    (hpoller : s.pollers[k]? = some poller) (hslot : poller.slots = 1)
    (hempty : poller.inHand = []) : Conserved maxConcurrency (s.release k) := by
  have hheld := held_setPoller .sleeping hpoller
  have hinHand := inHand_setPoller .sleeping hpoller
  have hsleeping : Poller.sleeping.slots = 0 := rfl
  rw [hempty, Poller.inHand_of_slots hsleeping, List.append_nil, List.append_nil] at hinHand
  constructor
  · have := h.slots
    show s.free + 1 + (s.setPoller k .sleeping).held + s.tasks.length = maxConcurrency
    omega
  · exact h.runs.trans (hinHand.symm.append_left _)

theorem Conserved.acquire {free : ℕ} (h : Conserved maxConcurrency s)
    (hpoller : s.pollers[k]? = some .acquiring) (hfree : s.free = free + 1) :
    Conserved maxConcurrency { s.setPoller k .dequeuing with free := free } := by
  have hheld := held_setPoller .dequeuing hpoller
  have hinHand := inHand_setPoller .dequeuing hpoller
  simp only [Poller.slots] at hheld
  simp only [Poller.inHand, List.append_nil] at hinHand
  constructor
  · have := h.slots
    show free + (s.setPoller k .dequeuing).held + s.tasks.length = maxConcurrency
    omega
  · exact h.runs.trans (hinHand.symm.append_left _)

theorem Conserved.dequeue {runs : RunTable} (h : Conserved maxConcurrency s)
    (hpoller : s.pollers[k]? = some .dequeuing) : Conserved maxConcurrency
      { s.setPoller k (.claimed runId) with runs := runs, marked := s.marked ++ [runId] } := by
  have hheld := held_setPoller (.claimed runId) hpoller
  have hinHand := inHand_setPoller (.claimed runId) hpoller
  simp only [Poller.slots] at hheld
  simp only [Poller.inHand, List.append_nil] at hinHand
  constructor
  · have := h.slots
    show s.free + (s.setPoller k (.claimed runId)).held + s.tasks.length = maxConcurrency
    omega
  · show (s.marked ++ [runId]).Perm (s.passed ++ (s.setPoller k (.claimed runId)).inHand)
    have hmarked := h.runs.append_right [runId]
    rw [List.append_assoc] at hmarked
    exact hmarked.trans (hinHand.symm.append_left _)

theorem Conserved.spawn {no : ℕ} (h : Conserved maxConcurrency s)
    (hpoller : s.pollers[k]? = some (.claimed runId)) :
    Conserved maxConcurrency (s.spawn k no runId) := by
  have hheld := held_setPoller (.loop s.running) hpoller
  have hinHand := inHand_setPoller (.loop s.running) hpoller
  rw [Poller.loop_slots] at hheld
  rw [Poller.loop_inHand, List.append_nil] at hinHand
  simp only [Poller.slots] at hheld
  constructor
  · have := h.slots
    show s.free + (s.setPoller k (.loop s.running)).held +
      (s.tasks ++ [Task.mk no runId false]).length = maxConcurrency
    rw [List.length_append, List.length_singleton]
    omega
  · show s.marked.Perm (s.passed ++ [runId] ++ (s.setPoller k (.loop s.running)).inHand)
    rw [List.append_assoc]
    have hfront : (s.inHand).Perm ([runId] ++ (s.setPoller k (.loop s.running)).inHand) :=
      hinHand.symm.trans List.perm_append_comm
    exact h.runs.trans (hfront.append_left _)

theorem Conserved.onTaskDone {task : Task} (h : Conserved maxConcurrency s)
    (hlive : task ∈ s.tasks) : Conserved maxConcurrency (s.onTaskDone task) := by
  refine ⟨?_, h.runs⟩
  have hlength := List.length_erase_of_mem hlive
  have hpos := List.length_pos_of_mem hlive
  have := h.slots
  show s.free + 1 + s.held + (s.tasks.erase task).length = maxConcurrency
  omega

theorem Conserved.cancelPoller (h : Conserved maxConcurrency s)
    (hidle : ∀ k, s.pollerTask = some k → NotDequeuing s k) :
    Conserved maxConcurrency s.cancelPoller := by
  unfold State.cancelPoller
  cases htask : s.pollerTask with
  | none => exact h
  | some k => exact h.setPoller (hidle k htask) rfl

theorem Conserved.step (h : Conserved maxConcurrency s) (hgentle : Gentle s a)
    (hs : Step s a t) : Conserved maxConcurrency t := by
  cases hs with
  | start hstopped =>
    constructor
    · have := h.slots
      simpa [State.held, Poller.slots] using this
    · have := h.runs
      simpa [State.inHand, Poller.inHand] using this
  | startAgain hrunning => exact h
  | shutdown =>
    have hcancelled := h.cancelPoller hgentle
    exact ⟨hcancelled.slots, hcancelled.runs⟩
  | shutdownDone hended => exact ⟨h.slots, h.runs⟩
  | enqueue => exact ⟨h.slots, h.runs⟩
  | cancel key => exact h
  | @turn k poller hpoller hat =>
    refine h.setPoller ?_ (Poller.loop_slots _)
    intro other hother
    rw [hpoller] at hother
    cases hother
    rcases hat with rfl | rfl <;> rfl
  | acquire hpoller hfree => exact h.acquire hpoller hfree
  | dequeue hpoller hrun => exact h.dequeue hpoller
  | empty hpoller hnone => exact h.release hpoller rfl rfl
  | @raise k poller hpoller hslot =>
    refine h.release hpoller hslot ?_
    cases poller with
    | claimed runId => exact absurd hpoller (hgentle runId)
    | dequeuing => rfl
    | fresh => rfl
    | acquiring => rfl
    | sleeping => rfl
    | ended => rfl
  | spawn hpoller hno => exact h.spawn hpoller
  | deliver k => exact h.setPoller hgentle rfl
  | complete hlive hrunning =>
    refine ⟨?_, h.runs⟩
    have := h.slots
    simpa [State.held] using this
  | taskDone hlive hdone => exact h.onTaskDone hlive
  | store runs => exact ⟨h.slots, h.runs⟩

theorem Initial.conserved (h : Initial maxConcurrency s) : Conserved maxConcurrency s := by
  constructor
  · rw [State.held, h.free, h.pollers, h.tasks]
    rfl
  · rw [State.inHand, h.marked, h.passed, h.pollers]
    exact List.Perm.refl _

/-- A task number that no live task has. -/
theorem exists_no (tasks : List Task) : ∃ no, ∀ task ∈ tasks, task.no ≠ no := by
  refine ⟨(tasks.map (·.no)).sum + 1, ?_⟩
  intro task htask heq
  have hle := List.le_sum_of_mem (List.mem_map_of_mem (f := (·.no)) htask)
  omega

/-- As long as no cancellation reaches a poller in a dequeue and no dequeue raises after the store
has marked the run, every slot is accounted for, and every run marked RUNNING was passed on once or
is in the hand of a poller, which passes it on next. -/
theorem scheduler_conserves {s₀ : State} (hinitial : Initial maxConcurrency s₀)
    (hrun : GentleRuns s₀ s) :
    s.free + s.held + s.tasks.length = maxConcurrency ∧
      s.marked.Perm (s.passed ++ s.inHand) ∧
      ∀ k runId, s.pollers[k]? = some (.claimed runId) →
        ∃ t, Step s (.spawn k) t ∧ t.passed = s.passed ++ [runId] := by
  have hconserved : Conserved maxConcurrency s := by
    refine Steps.invariant hrun ?_ hinitial.conserved
    rintro s t hconserved ⟨a, hgentle, hstep⟩
    exact hconserved.step hgentle hstep
  refine ⟨hconserved.slots, hconserved.runs, ?_⟩
  intro k runId hpoller
  obtain ⟨no, hno⟩ := exists_no s.tasks
  exact ⟨_, .spawn hpoller hno, rfl⟩

def queuedRun : Core.Run where
  id := "run-1"
  status := .queued
  runner := "pytest"
  createdBy := "admin"
  testsPath := "suite"
  createdAt := ⟨63082281600000000, some 0⟩

/-- One slot, and one queued run. -/
def oneSlot : State where
  running := false
  free := 1
  pollers := []
  pollerTask := none
  tasks := []
  keyed := fun _ => none
  wakeEvent := false
  runs := ⟨[queuedRun], List.nodup_singleton _⟩
  marked := []
  passed := []

theorem oneSlot_initial : Initial 1 oneSlot := ⟨rfl, rfl, rfl, rfl, rfl⟩

/-- The store has marked the run for the poller, which has yet to hear of it. -/
def oneClaimed : State :=
  { oneSlot with
    running := true
    free := 0
    pollers := [.claimed "run-1"]
    pollerTask := some 0
    runs := ⟨[queuedRun.setRunning ⟨63082281600000005, some 0⟩], List.nodup_singleton _⟩
    marked := ["run-1"] }

theorem one_claimed : GentleRuns oneSlot oneClaimed := by
  have hstart : Step oneSlot .start
      { oneSlot with running := true, pollers := [.fresh], pollerTask := some 0 } := .start rfl
  have hturn : Step { oneSlot with running := true, pollers := [.fresh], pollerTask := some 0 }
      (.turn 0) { oneSlot with running := true, pollers := [.acquiring], pollerTask := some 0 } :=
    .turn rfl (Or.inl rfl)
  have hacquire : Step
      { oneSlot with running := true, pollers := [.acquiring], pollerTask := some 0 }
      (.acquire 0) { oneSlot with
        running := true, free := 0, pollers := [.dequeuing], pollerTask := some 0 } :=
    .acquire rfl rfl
  have hdequeue : Step { oneSlot with
        running := true, free := 0, pollers := [.dequeuing], pollerTask := some 0 }
      (.dequeue 0 ⟨63082281600000005, some 0⟩) oneClaimed := .dequeue rfl rfl
  exact .tail (.tail (.tail (.single ⟨.start, trivial, hstart⟩) ⟨.turn 0, trivial, hturn⟩)
    ⟨.acquire 0, trivial, hacquire⟩) ⟨.dequeue 0 _, trivial, hdequeue⟩

theorem scheduler_conserves_one : oneClaimed.marked.Perm (oneClaimed.passed ++ oneClaimed.inHand) :=
  (scheduler_conserves oneSlot_initial one_claimed).2.1

/-- Shut down there, the scheduler loses the slot and the run. -/
theorem shutdown_loses_run : ∃ s, Runs oneSlot s ∧
    s.free + s.held + s.tasks.length = 0 ∧ s.marked = ["run-1"] ∧ s.passed ++ s.inHand = [] := by
  have hforget : ∀ s t, (∃ a, Gentle s a ∧ Step s a t) → ∃ a, Step s a t := by
    rintro s t ⟨a, -, hstep⟩
    exact ⟨a, hstep⟩
  have hclaimed : Runs oneSlot oneClaimed := ReflTransGen.mono hforget _ _ one_claimed
  exact ⟨_, .tail hclaimed ⟨.shutdown, .shutdown⟩, rfl, rfl, rfl⟩

end QaRunner.AsyncioScheduler
