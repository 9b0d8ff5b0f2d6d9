import QaRunner.Domain.Errors
import QaRunner.Lib.Aggregate
import QaRunner.Lib.PriorityFifo
import Mathlib.Data.List.Nodup

/-! Bounded queues of three priority classes, and their runs as first-in first-out lanes. -/
namespace QaRunner
open Guarded Aggregate PriorityFifo

/-- Priority classes, in the order they are dequeued. -/
inductive QueueClass where
  | interactive
  | scheduled
  | background
  deriving DecidableEq, Repr

def QueueClass.value : QueueClass → String
  | .interactive => "interactive"
  | .scheduled => "scheduled"
  | .background => "background"

/-- Every class, in declaration order. -/
def QueueClass.all : List QueueClass := [.interactive, .scheduled, .background]

def dequeuePriority : List QueueClass := [.interactive, .scheduled, .background]

structure QueueItem where
  batchId : String
  enqueuedAtIso : String
  enqueueId : String
  deriving DecidableEq

/-- Receipt returned after a successful enqueue. -/
structure EnqueueReceipt where
  enqueueId : String
  batchId : String
  queueClass : QueueClass
  depthAtEnqueue : ℤ
  deriving DecidableEq

/-- Item returned by dequeue. -/
structure DequeueItem where
  batchId : String
  queueClass : QueueClass
  enqueueId : String
  deriving DecidableEq

structure BoundedQueue.Fields where
  queueId : String
  maxDepthByClass : List (QueueClass × ℤ)
  itemsInteractive : List QueueItem := []
  itemsScheduled : List QueueItem := []
  itemsBackground : List QueueItem := []
  deriving DecidableEq

/-- Each class is limited once, and by at least one. -/
def BoundedQueue.checkLimits (seen : List QueueClass) : List (QueueClass × ℤ) → Result Unit
  | [] => .ok ()
  | (queueClass, maxDepth) :: rest => do
    invalidIf (queueClass ∈ seen) "bounded_queue" "max_depth_by_class" "duplicate"
    invalidIf (maxDepth < 1) "bounded_queue" "max_depth" "not_positive"
    checkLimits (queueClass :: seen) rest

def BoundedQueue.Fields.postInit (q : BoundedQueue.Fields) : Result Unit := do
  invalidIf (isBlank q.queueId) "bounded_queue" "queue_id" "invalid"
  invalidIf (q.maxDepthByClass = []) "bounded_queue" "max_depth_by_class" "empty"
  checkLimits [] q.maxDepthByClass

/-- Bounded queue with per-class depth limits. -/
structure BoundedQueue extends BoundedQueue.Fields where
  accepted : toFields.postInit = .ok ()
  deriving DecidableEq

structure EnqueueArgs where
  batchId : String
  queueClass : QueueClass
  enqueueId : String
  enqueuedAt : Datetime

def EnqueueArgs.item (a : EnqueueArgs) : QueueItem :=
  ⟨a.batchId, a.enqueuedAt.isoformatUtc, a.enqueueId⟩

namespace BoundedQueue

def new : BoundedQueue.Fields → Result BoundedQueue := construct Fields.postInit mk

def itemsFor (q : BoundedQueue) : QueueClass → List QueueItem
  | .interactive => q.itemsInteractive
  | .scheduled => q.itemsScheduled
  | .background => q.itemsBackground

/-- The queue with the items of one class replaced; no check of a queue reads its items. -/
def withItems (q : BoundedQueue) (queueClass : QueueClass) (items : List QueueItem) :
    BoundedQueue :=
  let kept := fun qc => if qc = queueClass then items else q.itemsFor qc
  { queueId := q.queueId
    maxDepthByClass := q.maxDepthByClass
    itemsInteractive := kept .interactive
    itemsScheduled := kept .scheduled
    itemsBackground := kept .background
    accepted := q.accepted }

def maxDepthFor (q : BoundedQueue) (queueClass : QueueClass) : Result ℤ := do
  let limit ← need (q.maxDepthByClass.find? fun limit => limit.1 = queueClass)
    (.domainValidation "bounded_queue" "queue_class" "unknown_queue_class")
  return limit.2

/-- Append a batch to its class unless the class is full. -/
def enqueue (q : BoundedQueue) (a : EnqueueArgs) : Result (BoundedQueue × EnqueueReceipt) := do
  invalidIf (isBlank a.batchId) "bounded_queue" "batch_id" "invalid"
  invalidIf (isBlank a.enqueueId) "bounded_queue" "enqueue_id" "invalid"
  requireUtc "bounded_queue" "enqueued_at" a.enqueuedAt
  each QueueClass.all fun qc => each (q.itemsFor qc) fun item =>
    invalidIf (item.enqueueId = a.enqueueId) "bounded_queue" "enqueue_id" "duplicate"
  let maxDepth ← q.maxDepthFor a.queueClass
  let currentDepth : ℤ := (q.itemsFor a.queueClass).length
  raiseIf (maxDepth ≤ currentDepth)
    (.queueOverflow a.queueClass.value currentDepth maxDepth "max_depth_exceeded")
  return (q.withItems a.queueClass (q.itemsFor a.queueClass ++ [a.item]),
    ⟨a.enqueueId, a.batchId, a.queueClass, currentDepth + 1⟩)

/-- Serve the first of the classes that has an item. -/
def dequeueFrom (q : BoundedQueue) : List QueueClass → BoundedQueue × Option DequeueItem
  | [] => (q, none)
  | queueClass :: rest =>
    match q.itemsFor queueClass with
    | item :: items =>
      (q.withItems queueClass items, some ⟨item.batchId, queueClass, item.enqueueId⟩)
    | [] => q.dequeueFrom rest

def dequeue (q : BoundedQueue) : BoundedQueue × Option DequeueItem := q.dequeueFrom dequeuePriority

end BoundedQueue

inductive QueueCall where
  | enqueue (args : EnqueueArgs)
  | dequeue

namespace BoundedQueue

def exec (q : BoundedQueue) : QueueCall → Result BoundedQueue
  | .enqueue args => Prod.fst <$> q.enqueue args
  | .dequeue => .ok q.dequeue.1

/-- What a call does to the lanes: an accepted item, or the item that stood first in the class
served. -/
def eventsOf (q : BoundedQueue) : QueueCall → List (Event QueueClass QueueItem)
  | .enqueue args =>
    match q.enqueue args with
    | .ok _ => [.pushed args.queueClass args.item]
    | .error _ => []
  | .dequeue =>
    match q.dequeue.2 with
    | some served =>
      (q.itemsFor served.queueClass).head?.toList.map (.popped served.queueClass)
    | none => []

/-- The events of a run. -/
def log (q : BoundedQueue) : List QueueCall → List (Event QueueClass QueueItem)
  | [] => []
  | call :: calls => q.eventsOf call ++ log (apply exec q call) calls

/-- The ids of all items. -/
def enqueueIds (q : BoundedQueue) : List String :=
  (present QueueClass.all q.itemsFor).map (·.enqueueId)

/-- Depths within their limits, no items in a class without one, and distinct ids. -/
structure Bounded (q : BoundedQueue) : Prop where
  depth : ∀ limit ∈ q.maxDepthByClass, ((q.itemsFor limit.1).length : ℤ) ≤ limit.2
  limited : ∀ qc, q.itemsFor qc ≠ [] → qc ∈ q.maxDepthByClass.map Prod.fst
  ids : q.enqueueIds.Nodup

variable {q q' : BoundedQueue} {a : EnqueueArgs} {receipt : EnqueueReceipt}

theorem new_eq_ok {f : BoundedQueue.Fields} : new f = .ok q ↔ q.toFields = f := by
  rw [new, construct_eq_ok]
  constructor
  · rintro ⟨_, rfl⟩
    rfl
  · rintro rfl
    exact ⟨q.accepted, rfl⟩

@[simp] theorem itemsFor_withItems (qc : QueueClass) (items : List QueueItem) :
    (q.withItems qc items).itemsFor = Function.update q.itemsFor qc items := by
  funext other
  cases other <;> simp [withItems, itemsFor, Function.update_apply]

@[simp] theorem maxDepthByClass_withItems (qc : QueueClass) (items : List QueueItem) :
    (q.withItems qc items).maxDepthByClass = q.maxDepthByClass := rfl

theorem checkLimits_eq_ok {seen : List QueueClass} {limits : List (QueueClass × ℤ)}
    (h : checkLimits seen limits = .ok ()) :
    (limits.map Prod.fst).Nodup ∧ (∀ qc ∈ limits.map Prod.fst, qc ∉ seen) ∧
      ∀ limit ∈ limits, 1 ≤ limit.2 := by
  induction limits generalizing seen with
  | nil => simp
  | cons limit rest ih =>
    simp only [checkLimits, then_eq_ok, invalidIf_eq_ok] at h
    obtain ⟨hnodup, hseen, hpositive⟩ := ih h.2.2
    rw [List.map_cons, List.nodup_cons, List.forall_mem_cons, List.forall_mem_cons]
    refine ⟨⟨fun hmem => hseen _ hmem List.mem_cons_self, hnodup⟩, ⟨h.1, ?_⟩,
      Int.not_lt.mp h.2.1, hpositive⟩
    exact fun qc hqc hin => hseen qc hqc (List.mem_cons_of_mem _ hin)

theorem limits_ok (q : BoundedQueue) :
    (q.maxDepthByClass.map Prod.fst).Nodup ∧ ∀ limit ∈ q.maxDepthByClass, 1 ≤ limit.2 := by
  have h := q.accepted
  simp only [Fields.postInit, then_eq_ok] at h
  obtain ⟨hnodup, -, hpositive⟩ := checkLimits_eq_ok h.2.2
  exact ⟨hnodup, hpositive⟩

theorem enqueue_eq_ok (h : q.enqueue a = .ok (q', receipt)) :
    a.enqueueId ∉ q.enqueueIds ∧
      (∃ limit ∈ q.maxDepthByClass, limit.1 = a.queueClass ∧
        ((q.itemsFor a.queueClass).length : ℤ) < limit.2) ∧
      q' = q.withItems a.queueClass (q.itemsFor a.queueClass ++ [a.item]) ∧
      receipt = ⟨a.enqueueId, a.batchId, a.queueClass, (q.itemsFor a.queueClass).length + 1⟩ := by
  simp only [enqueue, maxDepthFor, bind_eq_ok, exists_unit, each_eq_ok, invalidIf_eq_ok,
    need_eq_ok, raiseIf_eq_ok, pure_eq_ok, Prod.mk.injEq] at h
  obtain ⟨-, -, -, hfresh, maxDepth, ⟨limit, hlimit, rfl⟩, hdepth, rfl, rfl⟩ := h
  refine ⟨?_, ⟨limit, List.mem_of_find?_eq_some hlimit, by simpa using List.find?_some hlimit,
    Int.not_le.mp hdepth⟩, rfl, rfl⟩
  simp only [enqueueIds, present, List.mem_map, List.mem_flatMap]
  rintro ⟨item, ⟨qc, hqc, hitem⟩, hid⟩
  exact hfresh qc hqc item hitem hid

theorem dequeueFrom_eq (order : List QueueClass) : q.dequeueFrom order =
    match oldest order q.itemsFor with
    | some (qc, item) => (q.withItems qc (q.itemsFor qc).tail,
        some ⟨item.batchId, qc, item.enqueueId⟩)
    | none => (q, none) := by
  induction order with
  | nil => rfl
  | cons qc rest ih =>
    rw [dequeueFrom, oldest]
    split
    · next item items hitems => simp only [hitems, List.tail_cons]
    · next hitems => simp only [hitems, ih]

/-- Each call either does nothing to the lanes, pushes an accepted item or pops the oldest. -/
theorem apply_cases (q : BoundedQueue) (call : QueueCall) :
    (q.eventsOf call = [] ∧ apply exec q call = q) ∨
      (∃ a receipt, call = .enqueue a ∧ q.enqueue a = .ok (apply exec q call, receipt) ∧
        q.eventsOf call = [.pushed a.queueClass a.item]) ∨
      ∃ qc item, call = .dequeue ∧ oldest dequeuePriority q.itemsFor = some (qc, item) ∧
        apply exec q call = q.withItems qc (q.itemsFor qc).tail ∧
        q.eventsOf call = [.popped qc item] := by
  cases call with
  | enqueue a =>
    cases h : q.enqueue a with
    | error e => exact Or.inl ⟨by simp [eventsOf, h], by simp [apply, exec, h]⟩
    | ok r => exact Or.inr (Or.inl ⟨a, r.2, rfl, by simp [apply, exec, h], by simp [eventsOf, h]⟩)
  | dequeue =>
    have hdequeue : q.dequeue = _ := dequeueFrom_eq dequeuePriority
    cases hold : oldest dequeuePriority q.itemsFor with
    | none =>
      rw [hold] at hdequeue
      exact Or.inl ⟨by simp [eventsOf, hdequeue], by simp [apply, exec, hdequeue]⟩
    | some p =>
      obtain ⟨qc, item⟩ := p
      rw [hold] at hdequeue
      have hlane := oldest_eq_some hold
      refine Or.inr (Or.inr ⟨qc, item, rfl, rfl, by simp [apply, exec, hdequeue], ?_⟩)
      rw [eventsOf, hdequeue]
      simp only
      rw [hlane]
      rfl

theorem trace_log {q₀ : Lanes QueueClass QueueItem} {es : List (Event QueueClass QueueItem)}
    (h : Trace dequeuePriority q₀ es q.itemsFor) (calls : List QueueCall) :
    Trace dequeuePriority q₀ (es ++ q.log calls) (after exec q calls).itemsFor := by
  induction calls generalizing q es with
  | nil => simpa [log, after] using h
  | cons call calls ih =>
    rw [log, ← List.append_assoc]
    apply ih
    rcases apply_cases q call with ⟨hnone, hsame⟩ | ⟨a, receipt, -, henqueue, hpushed⟩ |
      ⟨qc, item, -, hold, hserved, hpopped⟩
    · rw [hnone, hsame, List.append_nil]
      exact h
    · rw [hpushed, (enqueue_eq_ok henqueue).2.2.1, itemsFor_withItems]
      exact h.push a.queueClass a.item
    · rw [hpopped, hserved, itemsFor_withItems]
      exact h.pop hold

theorem new_bounded {queueId : String} {limits : List (QueueClass × ℤ)}
    (h : new { queueId := queueId, maxDepthByClass := limits } = .ok q) : q.Bounded := by
  rw [new_eq_ok] at h
  have hempty : ∀ qc, q.itemsFor qc = [] := by
    intro qc
    cases qc <;> simp [itemsFor, h]
  refine ⟨fun limit hlimit => ?_, fun qc hqc => absurd (hempty qc) hqc, ?_⟩
  · have hpositive := q.limits_ok.2 limit hlimit
    rw [hempty, List.length_nil]
    omega
  · rw [enqueueIds, present, funext hempty]
    exact List.nodup_nil

theorem apply_bounded (h : q.Bounded) (call : QueueCall) : (apply exec q call).Bounded := by
  rcases apply_cases q call with ⟨-, hsame⟩ | ⟨a, receipt, -, henqueue, -⟩ |
    ⟨qc, item, -, hold, hserved, -⟩
  · rwa [hsame]
  · obtain ⟨hfresh, ⟨limit, hlimit, hclass, hroom⟩, heq, -⟩ := enqueue_eq_ok henqueue
    rw [heq]
    refine ⟨fun other hother => ?_, fun qc hqc => ?_, ?_⟩
    · by_cases hsame : other.1 = a.queueClass
      · -- a class has one limit only, the one that was checked
        have hother : other = limit :=
          List.inj_on_of_nodup_map q.limits_ok.1 hother hlimit (hsame.trans hclass.symm)
        subst hother
        rw [itemsFor_withItems, hclass, Function.update_self, List.length_append]
        exact Int.add_one_le_of_lt hroom
      · rw [itemsFor_withItems, Function.update_of_ne hsame]
        exact h.depth other hother
    · by_cases hsame : qc = a.queueClass
      · exact List.mem_map.mpr ⟨limit, hlimit, hclass.trans hsame.symm⟩
      · rw [itemsFor_withItems, Function.update_of_ne hsame] at hqc
        exact h.limited qc hqc
    · have hmem : a.queueClass ∈ QueueClass.all := by
        cases a.queueClass <;> decide
      have hperm := present_push_perm (by decide) hmem q.itemsFor a.item
      rw [enqueueIds, itemsFor_withItems]
      refine (hperm.map _).nodup_iff.mpr ?_
      exact List.nodup_cons.mpr ⟨hfresh, h.ids⟩
  · rw [hserved]
    refine ⟨fun limit hlimit => ?_, fun other hother => ?_, ?_⟩
    · have hdepth := h.depth limit hlimit
      by_cases hsame : limit.1 = qc
      · rw [itemsFor_withItems, hsame, Function.update_self, List.length_tail]
        rw [hsame] at hdepth
        omega
      · rwa [itemsFor_withItems, Function.update_of_ne hsame]
    · apply h.limited
      by_cases hsame : other = qc
      · subst hsame
        rw [oldest_eq_some hold]
        exact List.cons_ne_nil _ _
      · rwa [itemsFor_withItems, Function.update_of_ne hsame] at hother
    · rw [enqueueIds, itemsFor_withItems]
      exact h.ids.sublist ((present_pop_sublist QueueClass.all q.itemsFor qc).map _)

theorem apply_limits (q : BoundedQueue) (call : QueueCall) :
    (apply exec q call).maxDepthByClass = q.maxDepthByClass := by
  rcases apply_cases q call with ⟨-, hsame⟩ | ⟨a, receipt, -, henqueue, -⟩ |
    ⟨qc, item, -, -, hserved, -⟩
  · rw [hsame]
  · rw [(enqueue_eq_ok henqueue).2.2.1, maxDepthByClass_withItems]
  · rw [hserved, maxDepthByClass_withItems]

theorem after_bounded (h : q.Bounded) (calls : List QueueCall) : (after exec q calls).Bounded ∧
    (after exec q calls).maxDepthByClass = q.maxDepthByClass := by
  induction calls generalizing q with
  | nil => exact ⟨h, rfl⟩
  | cons call calls ih =>
    obtain ⟨hbounded, hlimits⟩ := ih (apply_bounded h call)
    exact ⟨hbounded, hlimits.trans (apply_limits q call)⟩

/-- What the queue hands out is the oldest item of the first class that has one. -/
theorem dequeue_answer (q : BoundedQueue) :
    q.dequeue.2 = (oldest dequeuePriority q.itemsFor).map
      fun served => ⟨served.2.batchId, served.1, served.2.enqueueId⟩ := by
  rw [dequeue, dequeueFrom_eq]
  cases oldest dequeuePriority q.itemsFor with
  | none => rfl
  | some served => rfl

/-- From an empty queue every run of calls is a run of three first-in first-out lanes: what was
accepted for a class is what it served and what it holds, in that order, within its limit. -/
theorem bounded_fifo {queueId : String} {limits : List (QueueClass × ℤ)} {q₀ : BoundedQueue}
    (h : new { queueId := queueId, maxDepthByClass := limits } = .ok q₀)
    (calls : List QueueCall) :
    let q := after exec q₀ calls
    let log := q₀.log calls
    Trace dequeuePriority (fun _ => []) log q.itemsFor ∧
      (∀ qc, pushedTo qc log = poppedFrom qc log ++ q.itemsFor qc) ∧
      q.maxDepthByClass = limits ∧ q.Bounded ∧
      (q.dequeue.2 = (oldest dequeuePriority q.itemsFor).map
        fun served => ⟨served.2.batchId, served.1, served.2.enqueueId⟩) ∧
      (∀ a q' receipt, q.enqueue a = .ok (q', receipt) →
        q'.itemsFor = push q.itemsFor a.queueClass a.item ∧
        receipt = ⟨a.enqueueId, a.batchId, a.queueClass, (q'.itemsFor a.queueClass).length⟩) ∧
      ∀ a e, q.enqueue a = .error e → apply exec q (.enqueue a) = q := by
  intro q log
  have hempty : q₀.itemsFor = fun _ => [] := by
    rw [new_eq_ok] at h
    funext qc
    cases qc <;> simp [itemsFor, h]
  have htrace : Trace dequeuePriority (fun _ => []) log q.itemsFor := by
    have hstart : Trace dequeuePriority q₀.itemsFor [] q₀.itemsFor := Trace.nil
    rw [← hempty]
    exact trace_log hstart calls
  obtain ⟨hbounded, hlimits⟩ := after_bounded (new_bounded h) calls
  refine ⟨htrace, fun qc => ?_, ?_, hbounded, dequeue_answer q, fun a q' receipt hok => ?_,
    fun a e herror => ?_⟩
  · simpa using htrace.conserves qc
  · rw [hlimits]
    exact congrArg BoundedQueue.Fields.maxDepthByClass (new_eq_ok.mp h)
  · obtain ⟨-, -, rfl, rfl⟩ := enqueue_eq_ok hok
    refine ⟨itemsFor_withItems _ _, ?_⟩
    rw [itemsFor_withItems, Function.update_self, List.length_append]
    rfl
  · have hexec : exec q (.enqueue a) = .error e := by
      rw [exec, herror]
      rfl
    rw [apply, hexec]

/-- An interactive item overtakes the background item that came first. -/
theorem bounded_fifo_overtakes :
    let q₀ : BoundedQueue := ⟨⟨"queue-1", [(.interactive, 1), (.background, 2)], [], [], []⟩, rfl⟩
    let calls := [.enqueue ⟨"batch-1", .background, "enqueue-1", ⟨0, some 0⟩⟩,
      .enqueue ⟨"batch-2", .interactive, "enqueue-2", ⟨1, some 0⟩⟩, .dequeue]
    new q₀.toFields = .ok q₀ ∧
      ((pushedTo .interactive (q₀.log calls)).map (·.batchId) = ["batch-2"] ∧
        (after exec q₀ calls).itemsFor .interactive = []) ∧
      pushedTo .interactive (q₀.log calls) =
        poppedFrom .interactive (q₀.log calls) ++ (after exec q₀ calls).itemsFor .interactive := by
  intro q₀ calls
  have h : new q₀.toFields = .ok q₀ := new_eq_ok.mpr rfl
  exact ⟨h, by decide, (bounded_fifo h calls).2.1 .interactive⟩

end BoundedQueue
end QaRunner
