import QaRunner.Application.PreexecutionDialogue

/-! What a gateway has answered when the closure proof assembles a snapshot, and how the proof ends
on any other answers. -/
namespace QaRunner.PreexecutionDialogue
open Guarded Interaction Prog

def quarantines (trace : PreexecutionTrace) : ℕ := trace.countP fun event => event.1.isQuarantine

/-- The call was made and got this answer. -/
def Answered (trace : PreexecutionTrace) (call : PreexecutionProofCall) (answer : call.Answer) :
    Prop :=
  ⟨call, answer⟩ ∈ trace

/-- Nothing but questions was asked of the gateway. -/
def Asked (trace : PreexecutionTrace) : Prop := ∀ event ∈ trace, event.1.isQuestion = true

/-- The key of a task holds an integer or a string that no digest binds. -/
def Undigestible (tasks : List PreexecutionTaskKey) : Prop := ∃ key ∈ tasks, ¬ key.Digestible

/-- A frozen plan is to be proved for a Batch whose id no digest binds. -/
def Unbindable (command : ProvePreexecutionClosureCommand) : Prop :=
  command.batchId.isUnicode = false ∧ ∃ scope ∈ command.scope, scope.kind = .frozenPlan

/-- The ways the proof fails, when only the cause keeps a digest from being computed. -/
inductive Fails (command : ProvePreexecutionClosureCommand) (cause : Prop) :
    PreexecutionTrace → Failure → Prop
  | notReady {trace} (hasked : Asked trace) : Fails command cause trace closureNotReady
  | integrity {trace} (hasked : Asked trace) :
      Fails command cause (trace ++ [⟨.quarantineIntegrityFailure command.batchId, ()⟩])
        (integrityFailure command.batchId)
  | canonicalization {trace e} (hasked : Asked trace) (herror : Noncanonical e) (hcause : cause) :
      Fails command cause trace ⟨.domain e, []⟩

variable {command : ProvePreexecutionClosureCommand} {cause : Prop}
  {tasks : List PreexecutionTaskKey} {α β : Type} {inventory : SealedTaskInventory} {trace : PreexecutionTrace}

theorem Asked.append {rest : PreexecutionTrace} (h : Asked trace) (hrest : Asked rest) :
    Asked (trace ++ rest) :=
  List.forall_mem_append.mpr ⟨h, hrest⟩

theorem asked_nil : Asked [] := fun _ h => absurd h List.not_mem_nil

theorem asked_cons {event : Sigma PreexecutionProofCall.Answer} :
    Asked (event :: trace) ↔ event.1.isQuestion = true ∧ Asked trace := List.forall_mem_cons

theorem Asked.no_quarantine (h : Asked trace) : quarantines trace = 0 := by
  apply List.countP_eq_zero.mpr
  rintro ⟨call, answer⟩ hmem hquarantine
  have hasked := h _ hmem
  cases call <;> cases hasked <;> cases hquarantine

theorem Asked.one_quarantine (h : Asked trace) {batchId : Str} :
    quarantines (trace ++ [⟨.quarantineIntegrityFailure batchId, ()⟩]) = 1 := by
  have hbefore := h.no_quarantine
  rw [quarantines] at hbefore ⊢
  rw [List.countP_append, hbefore]
  rfl

theorem Asked.no_assembly (h : Asked trace) {inputs : ZeroChildSnapshotInputs}
    {snapshot : BatchPreexecutionSnapshot} :
    ¬ Answered trace (.assembleZeroChildSnapshot inputs) snapshot := by
  intro hmem
  have hasked := h _ hmem
  cases hasked

/-- Questions asked before do not change how the rest fails. -/
theorem Fails.after {rest : PreexecutionTrace} {failure : Failure} (hasked : Asked trace)
    (h : Fails command cause rest failure) : Fails command cause (trace ++ rest) failure := by
  cases h with
  | notReady hrest => exact .notReady (hasked.append hrest)
  | integrity hrest =>
    rw [← List.append_assoc]
    exact .integrity (hasked.append hrest)
  | canonicalization hrest herror hcause =>
    exact .canonicalization (hasked.append hrest) herror hcause

theorem Fails.no_assembly {failure : Failure} (h : Fails command cause trace failure)
    {inputs : ZeroChildSnapshotInputs} {snapshot : BatchPreexecutionSnapshot} :
    ¬ Answered trace (.assembleZeroChildSnapshot inputs) snapshot := by
  cases h with
  | notReady hasked => exact hasked.no_assembly
  | integrity hasked =>
    intro hmem
    rcases List.mem_append.mp hmem with hmem | hmem
    · exact hasked.no_assembly hmem
    · cases List.mem_singleton.mp hmem
  | canonicalization hasked _ _ => exact hasked.no_assembly

/-- Go on from a part of the proof that only asked. -/
theorem meets_bind {p : PreexecutionDialogue α} {f : α → PreexecutionDialogue β}
    {holds : PreexecutionTrace → α → Prop} {after : PreexecutionTrace → β → Prop}
    (hp : Meets (Fails command cause) p holds) (hasked : ∀ trace a, holds trace a → Asked trace)
    (hf : ∀ trace a, holds trace a →
      Meets (Fails command cause) (f a) fun rest b => after (trace ++ rest) b) :
    Meets (Fails command cause) (p >>= f) after := by
  apply hp.bind
  intro trace a hholds
  exact (hf trace a hholds).mono (fun _ _ h => h) fun _ _ h => h.after (hasked trace a hholds)

/-- Go on from a question. -/
theorem meets_ask {call : PreexecutionProofCall} (hcall : call.isQuestion = true)
    {f : call.Answer → PreexecutionDialogue β} {after : PreexecutionTrace → β → Prop}
    (hf : ∀ answer, Meets (Fails command cause) (f answer)
      fun rest b => after (⟨call, answer⟩ :: rest) b) :
    Meets (Fails command cause) (ask call >>= f) after := by
  apply meets_bind Meets.call
  · rintro _ answer rfl
    exact asked_cons.mpr ⟨hcall, asked_nil⟩
  · rintro _ answer rfl
    exact hf answer

theorem quarantineIf_meets {c : Prop} [Decidable c] :
    Meets (fun trace failure => Fails command cause trace failure ∧ c) (quarantineIf command c)
      fun trace _ => trace = [] ∧ ¬ c := by
  by_cases h : c
  · rw [quarantineIf, if_pos h]
    intro trace result hrun
    cases hrun with
    | ask answer hnext =>
      cases hnext
      constructor
      · rintro _ ⟨⟩
      · rintro _ ⟨⟩
        exact ⟨.integrity asked_nil, h⟩
  · rw [quarantineIf, if_neg h]
    exact Meets.pure ⟨rfl, h⟩

/-- Go on from a check that quarantines. -/
theorem meets_quarantineIf {c : Prop} [Decidable c] {p : PreexecutionDialogue β}
    {after : PreexecutionTrace → β → Prop} (hp : ¬ c → Meets (Fails command cause) p after) :
    Meets (Fails command cause) (quarantineIf command c >>= fun _ => p) after := by
  apply meets_bind (quarantineIf_meets.mono (fun _ _ h => h) fun _ _ h => h.1)
  · rintro _ _ ⟨rfl, -⟩
    exact asked_nil
  · rintro _ _ ⟨rfl, hc⟩
    exact hp hc

/-- Go on from a check that asks to try again later. -/
theorem meets_raiseIf {c : Prop} [Decidable c] {p : PreexecutionDialogue β}
    {after : PreexecutionTrace → β → Prop} (hp : ¬ c → Meets (Fails command cause) p after) :
    Meets (Fails command cause) (lift (raiseIf c closureNotReady) >>= fun _ => p) after := by
  by_cases h : c
  · rw [raiseIf, if_pos h]
    apply Meets.lift
    · rintro _ ⟨⟩
    · rintro _ ⟨⟩
      exact .notReady asked_nil
  · rw [raiseIf, if_neg h]
    exact hp h

theorem meets_need {found : Option α} {f : α → PreexecutionDialogue β}
    {after : PreexecutionTrace → β → Prop}
    (hf : ∀ a, found = some a → Meets (Fails command cause) (f a) after) :
    Meets (Fails command cause) (lift (need found closureNotReady) >>= f) after := by
  cases found with
  | none =>
    apply Meets.lift
    · rintro _ ⟨⟩
    · rintro _ ⟨⟩
      exact .notReady asked_nil
  | some a => exact hf a rfl

/-- The task seal is trusted for this Batch, current, and binds its tasks in strict order. -/
structure SealedFor (command : ProvePreexecutionClosureCommand) (inventory : SealedTaskInventory)
    (position : TaskLedgerPosition) : Prop where
  batch : inventory.batchId = command.batchId
  project : inventory.projectId = command.projectId
  suite_revision : inventory.suiteRevisionId = command.suiteRevisionId
  ledger_version : 1 ≤ inventory.ledgerVersion
  high_watermark : 0 ≤ inventory.highWatermark
  position : position = ⟨inventory.ledgerVersion, inventory.highWatermark⟩
  counted : inventory.taskCount = inventory.tasks.length
  sorted : inventory.tasks.Pairwise fun a b => a.order < b.order
  digest : canonicalTaskSetDigest inventory.tasks = .ok inventory.taskSetDigest

/-- The questions about the seal after it was read. -/
def sealQuestions (command : ProvePreexecutionClosureCommand) (inventory : SealedTaskInventory)
    (position : TaskLedgerPosition) : PreexecutionTrace :=
  [⟨.readCurrentTaskLedgerPosition command.batchId, position⟩,
    ⟨.isTrustedInventoryIssuer inventory.issuerId, true⟩]

theorem requireSealedTasks_meets :
    Meets (Fails command (Undigestible inventory.tasks ∨ Unbindable command))
      (requireSealedTasks command inventory) fun trace _ =>
      ∃ position, trace = sealQuestions command inventory position ∧
        SealedFor command inventory position := by
  apply meets_quarantineIf
  intro hnumbers
  apply meets_ask rfl
  intro position
  apply meets_raiseIf
  intro hposition
  apply meets_ask rfl
  intro issuerTrusted
  apply meets_quarantineIf
  intro hscope
  apply meets_quarantineIf
  intro htasks
  cases hdigest : canonicalTaskSetDigest inventory.tasks with
  | error e =>
    have hundigestible : Undigestible inventory.tasks := by
      by_contra hsafe
      simp only [Undigestible, not_exists, not_and_not_right] at hsafe
      obtain ⟨digest, hok⟩ := canonicalTaskSetDigest_ok hsafe
      cases hok.symm.trans hdigest
    apply Meets.lift
    · rintro _ ⟨⟩
    · rintro _ ⟨⟩
      exact .canonicalization asked_nil (failsIn_canonicalDigest _ _ e hdigest)
        (Or.inl hundigestible)
  | ok digest =>
    refine quarantineIf_meets.mono ?_ fun _ _ h => h.1
    rintro _ _ ⟨rfl, hdigests⟩
    simp only [not_or, not_lt, ne_eq, not_not, Bool.not_eq_false] at hnumbers hposition hscope
    simp only [not_or, ne_eq, not_not] at htasks hdigests
    obtain ⟨hversion, hwatermark, -⟩ := hnumbers
    obtain ⟨hbatch, hproject, hsuite, rfl⟩ := hscope
    obtain ⟨hcount, hnodup, hsorted⟩ := htasks
    refine ⟨position, rfl, hbatch, hproject, hsuite, hversion, hwatermark, ?_, hcount, ?_, ?_⟩
    · cases position
      cases hposition.1
      cases hposition.2
      rfl
    · exact Sorting.pairwise_lt_of_sorted hsorted
        (hnodup.map PreexecutionTaskKey.order_injective)
    · rw [hdigest, hdigests]

/-- The stops are those of the sealed tasks, one for each in order, made for this Batch. -/
structure StopsFor (command : ProvePreexecutionClosureCommand) (inventory : SealedTaskInventory)
    (stops : List TrustedTaskStop) : Prop where
  keys : stops.map (·.key) = inventory.tasks
  batch : ∀ stop ∈ stops, stop.batchId = command.batchId
  project : ∀ stop ∈ stops, stop.projectId = command.projectId

def stopQuestion (stop : TrustedTaskStop) : PreexecutionTrace :=
  [⟨.isTrustedStopIssuer stop.issuerId, true⟩]

/-- The stops, then the trusted issuer of each of them. -/
def stopQuestions (command : ProvePreexecutionClosureCommand) (stops : List TrustedTaskStop) :
    PreexecutionTrace :=
  ⟨.readTrustedTaskStops command.batchId, stops⟩ :: stops.flatMap stopQuestion

theorem asked_stopQuestion (stop : TrustedTaskStop) : Asked (stopQuestion stop) :=
  asked_cons.mpr ⟨rfl, asked_nil⟩

theorem asked_stopQuestions (stops : List TrustedTaskStop) :
    Asked (stopQuestions command stops) := by
  refine asked_cons.mpr ⟨rfl, fun event hevent => ?_⟩
  obtain ⟨stop, -, hmem⟩ := List.mem_flatMap.mp hevent
  exact asked_stopQuestion stop event hmem

theorem requireTaskStop_meets (stop : TrustedTaskStop) :
    Meets (Fails command cause) (requireTaskStop command stop) fun trace _ =>
      trace = stopQuestion stop ∧
        stop.batchId = command.batchId ∧ stop.projectId = command.projectId := by
  apply meets_ask rfl
  intro issuerTrusted
  refine quarantineIf_meets.mono ?_ fun _ _ h => h.1
  rintro _ _ ⟨rfl, hstop⟩
  simp only [not_or, ne_eq, not_not, Bool.not_eq_false] at hstop
  obtain ⟨hbatch, hproject, rfl⟩ := hstop
  exact ⟨rfl, hbatch, hproject⟩

theorem requireTaskStops_meets :
    Meets (Fails command cause) (requireTaskStops command inventory) fun trace stops =>
      trace = stopQuestions command stops ∧ StopsFor command inventory stops := by
  apply meets_ask rfl
  intro stops
  apply meets_bind (Meets.each (fun stop _ _ h => h.after (asked_stopQuestion stop))
    fun stop _ => requireTaskStop_meets stop)
  · rintro _ _ ⟨rfl, -⟩
    have hasked : Asked (stopQuestions command stops) := asked_stopQuestions stops
    exact (asked_cons.mp hasked).2
  · rintro _ _ ⟨rfl, hstops⟩
    apply meets_raiseIf
    intro hkeys
    apply Meets.pure
    rw [List.append_nil]
    exact ⟨rfl, (not_not.mp hkeys).symm, fun stop hstop => (hstops stop hstop).1,
      fun stop hstop => (hstops stop hstop).2⟩

/-- The planned inventory is that of the frozen scope, which holds no Run, in strict order. -/
structure PlannedFor (command : ProvePreexecutionClosureCommand) (scope : BatchCancellationScope)
    (planned : SealedPlannedScopeInventory) : Prop where
  batch : planned.batchId = command.batchId
  project : planned.projectId = command.projectId
  suite_revision : planned.suiteRevisionId = command.suiteRevisionId
  manifest : scope.manifestDigest = some planned.manifestDigest
  plan_version : scope.shardPlanVersion = some planned.shardPlanVersion
  plan : scope.shardPlanDigest = some planned.shardPlanDigest
  no_runs : ∃ digest, canonicalMaterializedRunSetDigest command.batchId [] = .ok digest ∧
    scope.canonicalRunSetDigest = some digest
  counted : planned.itemCount = planned.manifestItemKeys.length
  sorted : planned.manifestItemKeys.Pairwise (· < ·)
  nonempty : planned.manifestItemKeys ≠ []
  named : ("" : Str) ∉ planned.manifestItemKeys
  terminal_kind : command.terminalKind ≠ none
  command_digest : command.commandDigest ≠ none

/-- A frozen plan comes with its planned inventory, and no other scope with any. -/
inductive PlanFor (command : ProvePreexecutionClosureCommand) :
    Option SealedPlannedScopeInventory → Prop
  | frozen {scope : BatchCancellationScope} {planned : SealedPlannedScopeInventory}
      (hscope : command.scope = some scope) (hkind : scope.kind = .frozenPlan)
      (hplanned : PlannedFor command scope planned) : PlanFor command (some planned)
  | other (hscope : ∀ scope, command.scope = some scope → scope.kind ≠ .frozenPlan) :
      PlanFor command none

def plannedQuestions (command : ProvePreexecutionClosureCommand) :
    Option SealedPlannedScopeInventory → PreexecutionTrace
  | some planned => [⟨.readSealedPlannedScopeInventory command.batchId, some planned⟩,
      ⟨.isTrustedPlannedScopeIssuer planned.issuerId, true⟩]
  | none => []

theorem asked_plannedQuestions (planned : Option SealedPlannedScopeInventory) :
    Asked (plannedQuestions command planned) := by
  cases planned with
  | none => exact asked_nil
  | some planned => exact asked_cons.mpr ⟨rfl, asked_cons.mpr ⟨rfl, asked_nil⟩⟩

theorem requirePlannedInventory_meets {scope : BatchCancellationScope}
    (hscope : command.scope = some scope) (hkind : scope.kind = .frozenPlan) :
    Meets (Fails command (Undigestible tasks ∨ Unbindable command))
      (requirePlannedInventory command scope) fun trace planned =>
      trace = plannedQuestions command (some planned) ∧ PlannedFor command scope planned := by
  apply meets_ask rfl
  intro found
  apply meets_need
  rintro planned rfl
  apply meets_ask rfl
  intro issuerTrusted
  apply meets_quarantineIf
  intro hplanned
  cases hnoRuns : canonicalMaterializedRunSetDigest command.batchId [] with
  | error e =>
    have hunbindable : Unbindable command := by
      refine ⟨?_, scope, hscope, hkind⟩
      by_contra hunicode
      obtain ⟨digest, hok⟩ := canonicalMaterializedRunSetDigest_ok.mpr
        ⟨Bool.eq_true_of_not_eq_false hunicode, fun _ h => absurd h List.not_mem_nil⟩
      cases hok.symm.trans hnoRuns
    apply Meets.lift
    · rintro _ ⟨⟩
    · rintro _ ⟨⟩
      exact .canonicalization asked_nil (failsIn_canonicalDigest _ _ e hnoRuns)
        (Or.inr hunbindable)
  | ok noRuns =>
    apply meets_quarantineIf
    intro hitems
    apply Meets.pure
    simp only [not_or, ne_eq, not_not, Bool.not_eq_false] at hplanned hitems
    obtain ⟨rfl, hbatch, hproject, hsuite, hmanifest, hversion, hplan⟩ := hplanned
    obtain ⟨hruns, hcount, hnonempty, hsorted, hnodup, hnamed, hterminal, hdigest⟩ := hitems
    rw [← hsorted] at hcount hnonempty hnodup hnamed
    refine ⟨rfl, hbatch, hproject, hsuite, hmanifest.symm, hversion.symm, hplan.symm,
      ⟨noRuns, hnoRuns, hruns⟩, hcount, ?_, hnonempty, hnamed, hterminal, hdigest⟩
    apply Sorting.pairwise_lt_of_sorted hsorted
    rwa [List.map_id']

theorem requirePlannedScopeInventory_meets :
    Meets (Fails command (Undigestible tasks ∨ Unbindable command))
      (requirePlannedScopeInventory command) fun trace planned =>
      trace = plannedQuestions command planned ∧ PlanFor command planned := by
  unfold requirePlannedScopeInventory
  cases hscope : command.scope with
  | none =>
    refine Meets.pure ⟨rfl, .other ?_⟩
    rw [hscope]
    rintro _ ⟨⟩
  | some scope =>
    by_cases hkind : scope.kind = .frozenPlan
    · simp only [if_pos hkind]
      apply meets_bind (requirePlannedInventory_meets hscope hkind)
      · rintro _ planned ⟨rfl, -⟩
        exact asked_plannedQuestions _
      · rintro _ planned ⟨rfl, hplanned⟩
        exact Meets.pure ⟨List.append_nil _, .frozen hscope hkind hplanned⟩
    · simp only [if_neg hkind]
      refine Meets.pure ⟨rfl, .other ?_⟩
      rw [hscope]
      rintro _ ⟨⟩
      exact hkind

/-- The answers a snapshot is assembled from, besides that there are no children. -/
structure Answers where
  inventory : SealedTaskInventory
  position : TaskLedgerPosition
  stops : List TrustedTaskStop
  planned : Option SealedPlannedScopeInventory

namespace Answers

/-- The questions they answer, in the order they are asked. -/
def questions (command : ProvePreexecutionClosureCommand) (a : Answers) : PreexecutionTrace :=
  ⟨.readSealedTaskInventory command.batchId, some a.inventory⟩ ::
    (sealQuestions command a.inventory a.position ++
      (stopQuestions command a.stops ++ plannedQuestions command a.planned))

def inputs (command : ProvePreexecutionClosureCommand) (a : Answers) : ZeroChildSnapshotInputs :=
  snapshotInputs command a.inventory a.stops a.planned

/-- All tasks of the Batch are sealed and stopped, and its plan, if frozen, is the sealed one. -/
structure Prove (command : ProvePreexecutionClosureCommand) (a : Answers) : Prop where
  tasks : SealedFor command a.inventory a.position
  stops : StopsFor command a.inventory a.stops
  plan : PlanFor command a.planned

theorem asked_questions (a : Answers) : Asked (a.questions command) :=
  asked_cons.mpr ⟨rfl, asked_cons.mpr ⟨rfl, asked_cons.mpr ⟨rfl,
    (asked_stopQuestions a.stops).append (asked_plannedQuestions a.planned)⟩⟩⟩

end Answers

/-- The proof assembled the snapshot it returns, from answers that prove it. -/
def Assembled (command : ProvePreexecutionClosureCommand) (trace : PreexecutionTrace)
    (proof : PreexecutionProof) : Prop :=
  ∃ (answers : Answers) (snapshot : BatchPreexecutionSnapshot), answers.Prove command ∧
    trace = answers.questions command ++
      [⟨.assembleZeroChildSnapshot (answers.inputs command), snapshot⟩] ∧
    proof = .zeroChild snapshot

theorem proveSealed_meets :
    Meets (Fails command (Undigestible inventory.tasks ∨ Unbindable command))
      (proveSealed command inventory) fun trace proof => Assembled command
      (⟨.readSealedTaskInventory command.batchId, some inventory⟩ :: trace) proof := by
  apply meets_bind requireSealedTasks_meets
  · rintro _ _ ⟨position, rfl, -⟩
    exact asked_cons.mpr ⟨rfl, asked_cons.mpr ⟨rfl, asked_nil⟩⟩
  rintro _ _ ⟨position, rfl, htasks⟩
  apply meets_bind requireTaskStops_meets
  · rintro _ stops ⟨rfl, -⟩
    exact asked_stopQuestions stops
  rintro _ stops ⟨rfl, hstops⟩
  apply meets_bind requirePlannedScopeInventory_meets
  · rintro _ planned ⟨rfl, -⟩
    exact asked_plannedQuestions planned
  rintro _ planned ⟨rfl, hplan⟩
  apply Meets.bind Meets.call
  rintro _ snapshot rfl
  apply Meets.pure
  refine ⟨⟨inventory, position, stops, planned⟩, snapshot, ⟨htasks, hstops, hplan⟩, ?_, rfl⟩
  simp only [Answers.questions, Answers.inputs, List.append_nil, List.append_assoc,
    List.cons_append]

/-- The ways the proof fails, on the tasks sealed in an answer if any were. -/
inductive Ends (command : ProvePreexecutionClosureCommand) (trace : PreexecutionTrace)
    (failure : Failure) : Prop
  | unsealed (hfails : Fails command False trace failure)
  | sealed {inventory : SealedTaskInventory}
      (hread : Answered trace (.readSealedTaskInventory command.batchId) (some inventory))
      (hfails : Fails command (Undigestible inventory.tasks ∨ Unbindable command) trace failure)

theorem Ends.no_assembly {failure : Failure} (h : Ends command trace failure)
    {inputs : ZeroChildSnapshotInputs} {snapshot : BatchPreexecutionSnapshot} :
    ¬ Answered trace (.assembleZeroChildSnapshot inputs) snapshot := by
  cases h with
  | unsealed hfails => exact hfails.no_assembly
  | sealed _ hfails => exact hfails.no_assembly

theorem Ends.after {rest : PreexecutionTrace} {failure : Failure} (hasked : Asked trace)
    (h : Ends command rest failure) : Ends command (trace ++ rest) failure := by
  cases h with
  | unsealed hfails => exact .unsealed (hfails.after hasked)
  | sealed hread hfails => exact .sealed (List.mem_append_right _ hread) (hfails.after hasked)

theorem proveZeroChild_meets :
    Meets (Ends command) (proveZeroChild command) (Assembled command) := by
  apply Meets.bind Meets.call
  rintro _ found rfl
  cases found with
  | none =>
    apply Meets.lift
    · rintro _ ⟨⟩
    · rintro _ ⟨⟩
      exact .unsealed (.notReady (asked_cons.mpr ⟨rfl, asked_nil⟩))
  | some inventory =>
    refine proveSealed_meets.mono (fun _ _ h => h) fun rest failure hfails => ?_
    exact .sealed List.mem_cons_self (hfails.after (asked_cons.mpr ⟨rfl, asked_nil⟩))

/-- Without Runs there is no other child either, unless it is an orphan. -/
theorem no_children {children : ExecutionChildInventory} (hruns : children.runIds = [])
    (h : ¬ children.orphanAuthority) : children = ⟨[], [], [], [], [], []⟩ := by
  simp only [ExecutionChildInventory.orphanAuthority, not_and, not_or, ne_eq, not_not] at h
  obtain ⟨hassignments, hcommits, hattempts, hfences, hintents⟩ := h hruns
  cases children
  cases hruns
  cases hassignments
  cases hcommits
  cases hattempts
  cases hfences
  cases hintents
  rfl

/-- The Batch and its Runs have names that a digest binds. -/
def Bindable (command : ProvePreexecutionClosureCommand) (children : ExecutionChildInventory) :
    Prop :=
  command.batchId.isUnicode = true ∧ ∀ runId ∈ children.runIds, runId.isUnicode = true

/-- The Runs that exist, in order, under their digest. -/
def Materialized (command : ProvePreexecutionClosureCommand) (children : ExecutionChildInventory)
    (proof : PreexecutionProof) : Prop :=
  ∃ digest, canonicalMaterializedRunSetDigest command.batchId
      (Sorting.sortOn (fun x => x) children.runIds) = .ok digest ∧
    proof = .materialized
      ⟨command.batchId, Sorting.sortOn (fun x => x) children.runIds, digest⟩

theorem execute_meets :
    Meets (fun trace failure => ∃ children rest,
        trace = ⟨.scanExecutionChildren command.batchId, children⟩ :: rest ∧
          (children.runIds = [] ∧ Ends command rest failure ∨
            children.runIds ≠ [] ∧ rest = [] ∧ ¬ Bindable command children ∧
              ∃ e, Noncanonical e ∧ failure = ⟨.domain e, []⟩))
      (execute command) fun trace proof => ∃ children rest,
        trace = ⟨.scanExecutionChildren command.batchId, children⟩ :: rest ∧
          (children = ⟨[], [], [], [], [], []⟩ ∧ Assembled command rest proof ∨
            children.runIds ≠ [] ∧ rest = [] ∧ Bindable command children ∧
              Materialized command children proof) := by
  apply Meets.bind Meets.call
  rintro _ children rfl
  have hcheck := @quarantineIf_meets command False children.orphanAuthority _
  refine Meets.bind (hcheck.mono (fun _ _ h => h) ?_) ?_
  · rintro rest failure ⟨hfails, horphan⟩
    exact ⟨children, rest, rfl, Or.inl ⟨horphan.1, .unsealed hfails⟩⟩
  rintro _ _ ⟨rfl, horphan⟩
  by_cases hruns : children.runIds = []
  · rw [if_pos hruns]
    apply proveZeroChild_meets.mono
    · intro rest proof hassembled
      exact ⟨children, rest, rfl, Or.inl ⟨no_children hruns horphan, hassembled⟩⟩
    · intro rest failure hends
      exact ⟨children, rest, rfl, Or.inl ⟨hruns, hends⟩⟩
  · rw [if_neg hruns]
    have hbindable := @canonicalMaterializedRunSetDigest_ok command.batchId
      (Sorting.sortOn (fun x => x) children.runIds)
    simp only [Sorting.mem_sortOn] at hbindable
    cases hdigest : canonicalMaterializedRunSetDigest command.batchId
        (Sorting.sortOn (fun x => x) children.runIds) with
    | error e =>
      have hunbindable : ¬ Bindable command children := fun h => by
        obtain ⟨digest, hok⟩ := hbindable.mpr h
        cases hok.symm.trans hdigest
      simp only [hdigest]
      apply Meets.lift
      · rintro _ ⟨⟩
      · rintro _ ⟨⟩
        exact ⟨children, [], rfl, Or.inr
          ⟨hruns, rfl, hunbindable, e, failsIn_canonicalDigest _ _ e hdigest, rfl⟩⟩
    | ok digest =>
      simp only [hdigest]
      exact Meets.pure
        ⟨children, [], rfl, Or.inr ⟨hruns, rfl, hbindable.mp ⟨digest, hdigest⟩, digest, hdigest,
          rfl⟩⟩

/-- The three ways the proof fails when no Run exists: to be tried again later, on impossible
facts, or on what no digest binds. -/
inductive Failed (command : ProvePreexecutionClosureCommand) (trace : PreexecutionTrace)
    (failure : Failure) : Prop
  | notReady (hfailure : failure = closureNotReady) (hquarantines : quarantines trace = 0)
  | integrity (hfailure : failure = integrityFailure command.batchId)
      (hquarantines : quarantines trace = 1)
  | canonicalization {e : DomainError} {inventory : SealedTaskInventory}
      (hfailure : failure = ⟨.domain e, []⟩) (herror : Noncanonical e)
      (hquarantines : quarantines trace = 0)
      (hread : Answered trace (.readSealedTaskInventory command.batchId) (some inventory))
      (hcause : Undigestible inventory.tasks ∨ Unbindable command)

theorem Ends.failed {failure : Failure} (h : Ends command trace failure) :
    Failed command trace failure := by
  cases h with
  | unsealed hfails =>
    cases hfails with
    | notReady hasked => exact .notReady rfl hasked.no_quarantine
    | integrity hasked => exact .integrity rfl hasked.one_quarantine
    | canonicalization _ _ hcause => exact hcause.elim
  | sealed hread hfails =>
    cases hfails with
    | notReady hasked => exact .notReady rfl hasked.no_quarantine
    | integrity hasked => exact .integrity rfl hasked.one_quarantine
    | canonicalization hasked herror hcause =>
      exact .canonicalization rfl herror hasked.no_quarantine hread hcause

/-- Whatever is answered, a snapshot is assembled only from answers that prove the closure, Runs are
handed off in order unless no digest binds them, and all else fails, quarantined once or not at
all. -/
theorem zero_child_closure_sound {result : Except Failure PreexecutionProof}
    (h : Runs (execute command) trace result) :
    ∃ children rest, trace = ⟨.scanExecutionChildren command.batchId, children⟩ :: rest ∧
      (∀ inputs snapshot, Answered trace (.assembleZeroChildSnapshot inputs) snapshot →
        children = ⟨[], [], [], [], [], []⟩ ∧ ∃ answers : Answers, answers.Prove command ∧
          inputs = answers.inputs command ∧
          rest = answers.questions command ++ [⟨.assembleZeroChildSnapshot inputs, snapshot⟩] ∧
          result = .ok (.zeroChild snapshot)) ∧
      (children.runIds ≠ [] → rest = [] ∧
        (Bindable command children ∧ (∃ proof, result = .ok proof ∧
            Materialized command children proof) ∨
          ¬ Bindable command children ∧ ∃ e, Noncanonical e ∧ result = .error ⟨.domain e, []⟩)) ∧
      (children.runIds = [] →
        (∀ inputs snapshot, ¬ Answered trace (.assembleZeroChildSnapshot inputs) snapshot) →
        ∃ failure, result = .error failure ∧ Failed command trace failure) := by
  obtain ⟨hok, herror⟩ := execute_meets trace result h
  cases result with
  | error failure =>
    obtain ⟨children, rest, rfl, ⟨hruns, hends⟩ | ⟨hruns, rfl, hunbindable, e, hcause, rfl⟩⟩ :=
      herror failure rfl
    · have hscan : Asked [⟨.scanExecutionChildren command.batchId, children⟩] :=
        asked_cons.mpr ⟨rfl, asked_nil⟩
      have hall := hends.after hscan
      refine ⟨children, rest, rfl, ?_, fun hsome => absurd hruns hsome, ?_⟩
      · intro inputs snapshot hassembly
        exact absurd hassembly hall.no_assembly
      · intro _ _
        exact ⟨failure, rfl, hall.failed⟩
    · refine ⟨children, [], rfl, ?_, fun _ => ⟨rfl, Or.inr ⟨hunbindable, e, hcause, rfl⟩⟩,
        fun hno => absurd hno hruns⟩
      intro inputs snapshot hassembly
      cases List.mem_singleton.mp hassembly
  | ok proof =>
    obtain ⟨children, rest, rfl, ⟨hnone, hassembled⟩ | ⟨hruns, rfl, hbindable, hmaterialized⟩⟩ :=
      hok proof rfl
    · obtain ⟨answers, snapshot, hprove, rfl, rfl⟩ := hassembled
      refine ⟨children, _, rfl, ?_, ?_, ?_⟩
      · intro inputs snapshot' hassembly
        rcases List.mem_cons.mp hassembly with hscan | hmem
        · cases hscan
        rcases List.mem_append.mp hmem with hasked | hlast
        · exact absurd hasked answers.asked_questions.no_assembly
        · cases List.mem_singleton.mp hlast
          exact ⟨hnone, answers, hprove, rfl, rfl, rfl⟩
      · intro hsome
        rw [hnone] at hsome
        exact absurd rfl hsome
      · intro _ hno
        exact absurd (List.mem_cons_of_mem _ (List.mem_append_right _ List.mem_cons_self))
          (hno (answers.inputs command) snapshot)
    · refine ⟨children, [], rfl, ?_,
        fun _ => ⟨rfl, Or.inl ⟨hbindable, proof, rfl, hmaterialized⟩⟩, fun hno => absurd hno hruns⟩
      intro inputs snapshot hassembly
      cases List.mem_singleton.mp hassembly

def closeSetup : ProvePreexecutionClosureCommand where
  batchId := "batch-1"
  projectId := "project-1"
  suiteRevisionId := "revision-1"
  sourceBatchVersion := 1

/-- The one task of the sample Batch. -/
def setupTask : PreexecutionTaskKey := ⟨0, "setup", "checkout", 1⟩

def setupSeal : SealedTaskInventory where
  batchId := "batch-1"
  projectId := "project-1"
  suiteRevisionId := "revision-1"
  ledgerVersion := 1
  highWatermark := 1
  taskCount := 1
  taskSetDigest := contentDigest "qep.preexecution-task-set.v1"
    (.dict [("tasks", .list [setupTask.canonicalPayload])])
  issuerId := "coordinator-1"
  tasks := [setupTask]

def setupSnapshot : BatchPreexecutionSnapshot where
  batchId := "batch-1"
  sourceBatchVersion := 1
  scopeKind := .prePlan
  submissionDigest := .zero
  preplanScopeDigest := some .zero
  manifestDigest := none
  shardPlanVersion := none
  shardPlanDigest := none
  canonicalRunSetDigest := none
  materializedRunAbsenceDigest := .zero
  executionAbsenceSnapshotDigest := .zero
  taskStopFactDigests := [.zero]
  scopeItems := []
  itemCoverageProofDigest := none
  accepted := by decide

/-- The gateway of a Batch whose one task has stopped. -/
def setupAnswers : (call : PreexecutionProofCall) → call.Answer
  | .scanExecutionChildren _ => ⟨[], [], [], [], [], []⟩
  | .quarantineIntegrityFailure _ => ()
  | .readSealedTaskInventory _ => some setupSeal
  | .readCurrentTaskLedgerPosition _ => ⟨1, 1⟩
  | .isTrustedInventoryIssuer _ => true
  | .readTrustedTaskStops _ => [⟨setupTask, "batch-1", "project-1", "worker-1", .zero⟩]
  | .isTrustedStopIssuer _ => true
  | .readSealedPlannedScopeInventory _ => none
  | .isTrustedPlannedScopeIssuer _ => true
  | .assembleZeroChildSnapshot _ => setupSnapshot

def isZeroChild : PreexecutionProof → Bool
  | .zeroChild _ => true
  | .materialized _ => false

theorem setup_runs :
    ∃ trace snapshot, Runs (execute closeSetup) trace (.ok (.zeroChild snapshot)) := by
  have hends : ((execute closeSetup).eval fun call => .ok (setupAnswers call)).toOption.any
      isZeroChild = true := by decide +kernel
  obtain ⟨trace, hrun⟩ := exists_runs setupAnswers (execute closeSetup)
  cases hresult : (execute closeSetup).eval fun call => .ok (setupAnswers call) with
  | error failure =>
    rw [hresult] at hends
    cases hends
  | ok proof =>
    rw [hresult] at hends hrun
    cases proof with
    | zeroChild snapshot => exact ⟨trace, snapshot, hrun⟩
    | materialized scope => cases hends

theorem zero_child_closure_sound_setup : ∃ (trace : PreexecutionTrace)
    (snapshot : BatchPreexecutionSnapshot) (answers : Answers),
    Runs (execute closeSetup) trace (.ok (.zeroChild snapshot)) ∧ answers.Prove closeSetup ∧
      Answered trace (.assembleZeroChildSnapshot (answers.inputs closeSetup)) snapshot := by
  obtain ⟨trace, snapshot, hrun⟩ := setup_runs
  obtain ⟨children, rest, rfl, hassembled, hmaterialized, hfailed⟩ := zero_child_closure_sound hrun
  by_contra hnone
  have hno : ∀ inputs snapshot', ¬ Answered (⟨.scanExecutionChildren closeSetup.batchId, children⟩
      :: rest) (.assembleZeroChildSnapshot inputs) snapshot' := by
    intro inputs snapshot' hassembly
    obtain ⟨-, answers, hprove, rfl, -, hresult⟩ := hassembled inputs snapshot' hassembly
    cases hresult
    exact hnone ⟨_, snapshot, answers, hrun, hprove, hassembly⟩
  by_cases hruns : children.runIds = []
  · obtain ⟨failure, hresult, -⟩ := hfailed hruns hno
    cases hresult
  · obtain ⟨-, ⟨-, proof, hresult, digest, -, rfl⟩ | ⟨-, e, -, hresult⟩⟩ := hmaterialized hruns
    · cases hresult
    · cases hresult

/-- A task generation past the safe integers. -/
def oversizedTask : PreexecutionTaskKey := { setupTask with generation := 9007199254740992 }

def oversizedTrace : PreexecutionTrace :=
  [⟨.scanExecutionChildren "batch-1", ⟨[], [], [], [], [], []⟩⟩,
    ⟨.readSealedTaskInventory "batch-1", some { setupSeal with tasks := [oversizedTask] }⟩,
    ⟨.readCurrentTaskLedgerPosition "batch-1", ⟨1, 1⟩⟩,
    ⟨.isTrustedInventoryIssuer "coordinator-1", true⟩]

theorem oversized_task_runs : Runs (execute closeSetup) oversizedTrace
    (.error ⟨.domain (.canonicalization "$.payload.tasks[0].generation"
      "integer exceeds I-JSON safe range"), []⟩) :=
  .ask _ (.ask _ (.ask _ (.ask _ (.done _))))

/-- A task that no digest binds ends the proof with neither of its two failures. -/
theorem oversized_task_escapes :
    ¬ ∀ (command : ProvePreexecutionClosureCommand) (trace : PreexecutionTrace)
      (failure : Failure), Runs (execute command) trace (.error failure) →
      failure = closureNotReady ∧ quarantines trace = 0 ∨
        failure = integrityFailure command.batchId ∧ quarantines trace = 1 := by
  intro hall
  rcases hall closeSetup oversizedTrace _ oversized_task_runs with ⟨hfailure, -⟩ | ⟨hfailure, -⟩
  · cases hfailure
  · cases hfailure

end QaRunner.PreexecutionDialogue
