import QaRunner.Adapters.ReadinessPublication

/-! Any number of finalizations of Runs and Batches, interleaved over the same tables. -/
namespace QaRunner
open Guarded Interleaving PublishOnce

/-- One call of a handler, with the authority that its caller claims. -/
inductive Execution where
  | finalizeRun (command : FinalizeRunCommand)
  | beginBatchFinalization (candidate : BatchFinalizationReadinessAuthority)
      (command : BeginBatchFinalizationCommand)
  | finalizeBatch (candidate : FinalizeBatchAuthority) (command : FinalizeBatchCommand)

/-- What a handler answers. -/
inductive Answer where
  | run (result : FinalizeRunResult)
  | readiness (result : BeginBatchFinalizationResult)
  | batch (result : FinalizeBatchResult)
  deriving DecidableEq

namespace Execution

def program (reads : BatchSourceReads) : Execution → Prog FinalizationTables Raised Answer
  | .finalizeRun command =>
    FinalizeRun.execute PostgresRunFinalization.gateway command >>= fun r => pure (.run r)
  | .beginBatchFinalization candidate command =>
    BeginBatchFinalization.execute (PostgresBatchReadiness.gateway reads candidate) command >>=
      fun r => pure (.readiness r)
  | .finalizeBatch candidate command =>
    FinalizeBatch.execute (PostgresBatchFinalization.gateway reads candidate) command >>=
      fun r => pure (.batch r)

/-- The answer carries what is stored for the Run or the Batch. -/
def Wins (e : Execution) (replayed : Bool) (answer : Answer) (s : FinalizationTables) : Prop :=
  match e with
  | .finalizeRun command =>
    ∃ p, FinalizeRun.Stored command p s ∧ answer = .run ⟨p, replayed⟩
  | .beginBatchFinalization _ command =>
    ∃ p, BeginBatchFinalization.Stored command p s ∧
      answer = .readiness ⟨some p, replayed, .ready⟩
  | .finalizeBatch _ command =>
    ∃ p, FinalizeBatch.Stored command p s ∧ answer = .batch ⟨p, replayed⟩

/-- Nothing is stored yet. -/
def Vacant (e : Execution) (s : FinalizationTables) : Prop :=
  match e with
  | .finalizeRun command => FinalizeRun.Vacant command s
  | .beginBatchFinalization _ command => BeginBatchFinalization.Vacant command s
  | .finalizeBatch _ command => FinalizeBatch.Vacant command s

/-- How an execution has ended, and the one way in which it changes the tables. -/
inductive Settled (e : Execution) (s' : FinalizationTables) :
    List (FinalizationTables × FinalizationTables) → Raises Answer → Prop
  | failed {steps error} (hunchanged : Unchanged steps) : Settled e s' steps (.error error)
  | notReady {t reason} (hvacant : e.Vacant t) :
      Settled e s' [(t, t)] (.ok (.readiness ⟨none, false, reason⟩))
  | replayed {steps answer} (hwins : e.Wins true answer s') (hunchanged : Unchanged steps) :
      Settled e s' steps (.ok answer)
  | published {steps w w' answer} (hunchanged : Unchanged steps) (hvacant : e.Vacant w)
      (hfirst : e.Wins false answer w') (hwins : e.Wins false answer s') :
      Settled e s' (steps ++ [(w, w')]) (.ok answer)

variable {reads : BatchSourceReads} {e : Execution} {s s' : FinalizationTables}
  {steps : List (FinalizationTables × FinalizationTables)} {result : Raises Answer}

theorem program_guarantees (reads : BatchSourceReads) (e : Execution) (hs : s.Consistent) :
    Prog.Guarantees Evolves (e.program reads) s := by
  cases e with
  | finalizeRun command =>
    exact ((FinalizeRun.lawful command).execute_guarantees hs).bind fun _ _ _ _ => .done _ _
  | beginBatchFinalization candidate command =>
    exact ((BeginBatchFinalization.lawful reads candidate command).execute_guarantees hs).bind
      fun _ _ _ _ => .done _ _
  | finalizeBatch candidate command =>
    exact ((FinalizeBatch.lawful reads candidate command).execute_guarantees hs).bind
      fun _ _ _ _ => .done _ _

theorem program_oneWrite (reads : BatchSourceReads) (e : Execution) :
    Prog.OneWrite (e.program reads) := by
  cases e with
  | finalizeRun command =>
    exact (Handler.execute_oneWrite (FinalizeRun.lawful command).quiet).map _
  | beginBatchFinalization candidate command =>
    exact (Handler.execute_oneWrite
      (BeginBatchFinalization.lawful reads candidate command).quiet).map _
  | finalizeBatch candidate command =>
    exact (Handler.execute_oneWrite (FinalizeBatch.lawful reads candidate command).quiet).map _

/-- The authority, the lookup, the locked snapshot and the publication. -/
theorem program_within (reads : BatchSourceReads) (e : Execution) :
    Prog.Within 4 (e.program reads) := by
  cases e with
  | finalizeRun command =>
    refine Prog.Within.bind (m := 4) (n := 0) (Handler.execute_within (n := 1) ?_)
      fun _ => .done _ _
    rw [FinalizeRun.require_eq]
    exact Prog.within_read _
  | beginBatchFinalization candidate command =>
    exact Prog.Within.bind (m := 4) (n := 0)
      (Handler.execute_within (n := 1) (Prog.within_read _)) fun _ => .done _ _
  | finalizeBatch candidate command =>
    refine Prog.Within.bind (m := 4) (n := 0) (Handler.execute_within (n := 1) ?_)
      fun _ => .done _ _
    rw [FinalizeBatch.require_eq]
    exact Prog.within_read _

/-- Whatever the others do, an execution that has ended failed, answers with what is stored, or was
the one to store it. -/
theorem settled (hs : s.Consistent)
    (h : Thread Evolves (e.program reads) s steps (.done result) s') :
    e.Settled s' steps result := by
  cases e with
  | finalizeRun command =>
    obtain ⟨r, rfl, hthread⟩ := h.of_map
    cases (FinalizeRun.lawful command).outcome hs hthread with
    | failed hunchanged => exact .failed hunchanged
    | answered _ hanswer => cases hanswer
    | stored _ hreplay hheld hunchanged =>
      obtain ⟨-, rfl⟩ := FinalizeRun.replay_eq_ok.mp hreplay
      exact .replayed ⟨_, hheld, rfl⟩ hunchanged
    | repeated hheld hunchanged => exact .replayed ⟨_, hheld, rfl⟩ hunchanged
    | published hunchanged hmade _ hheld =>
      exact .published hunchanged hmade.1 ⟨_, hmade.2, rfl⟩ ⟨_, hheld, rfl⟩
  | beginBatchFinalization candidate command =>
    obtain ⟨r, rfl, hthread⟩ := h.of_map
    cases (BeginBatchFinalization.lawful reads candidate command).outcome hs hthread with
    | failed hunchanged => exact .failed hunchanged
    | answered _ hanswer _ =>
      obtain ⟨reason, rfl⟩ := BeginBatchFinalization.notReady_eq_some hanswer
      obtain ⟨t, rfl, hvacant⟩ := BeginBatchFinalization.fresh_of_notReady hs rfl hthread
      exact .notReady hvacant
    | stored _ hreplay hheld hunchanged =>
      obtain ⟨-, rfl⟩ := BeginBatchFinalization.replay_eq_ok.mp hreplay
      exact .replayed ⟨_, hheld, rfl⟩ hunchanged
    | repeated hheld hunchanged => exact .replayed ⟨_, hheld, rfl⟩ hunchanged
    | published hunchanged hmade _ hheld =>
      exact .published hunchanged hmade.1 ⟨_, hmade.2, rfl⟩ ⟨_, hheld, rfl⟩
  | finalizeBatch candidate command =>
    obtain ⟨r, rfl, hthread⟩ := h.of_map
    cases (FinalizeBatch.lawful reads candidate command).outcome hs hthread with
    | failed hunchanged => exact .failed hunchanged
    | answered _ hanswer => cases hanswer
    | stored _ hreplay hheld hunchanged =>
      obtain ⟨-, rfl⟩ := FinalizeBatch.replay_eq_ok.mp hreplay
      exact .replayed ⟨_, hheld, rfl⟩ hunchanged
    | repeated hheld hunchanged => exact .replayed ⟨_, hheld, rfl⟩ hunchanged
    | published hunchanged hmade _ hheld =>
      exact .published hunchanged hmade.1 ⟨_, hmade.2, rfl⟩ ⟨_, hheld, rfl⟩

/-- What is stored for the Run or the Batch has the digest of the command. -/
def SameDigest (e : Execution) (s : FinalizationTables) : Prop :=
  match e with
  | .finalizeRun command => ∃ row ∈ s.runBases,
      row.basis.runId = command.candidateBasis.runId ∧
        command.candidateBasis.basisDigest = .ok row.basisDigest
  | .beginBatchFinalization candidate command => ∃ fact ∈ s.readinessFacts,
      fact.payload.batchId = command.batchId ∧
        candidate.snapshot.readinessDigest = .ok fact.readinessDigest
  | .finalizeBatch _ command => ∃ stored ∈ s.batchBases,
      stored.basis.resolutionSet.batchId = FinalizeBatch.batchId command ∧
        command.candidateBasis.basisDigest = .ok stored.basisDigest

/-- The handler is granted an authority, for the source that its command names. -/
def Authorized (reads : BatchSourceReads) (e : Execution) (s : FinalizationTables) : Prop :=
  match e with
  | .finalizeRun command => ∃ authority, FinalizeRun.authorized command s = .ok authority
  | .beginBatchFinalization candidate command => ∃ authority,
      PostgresBatchReadiness.requireReadinessAuthority reads candidate s command.batchId =
        .ok authority
  | .finalizeBatch candidate command => ∃ authority,
      FinalizeBatch.authorized reads candidate command s = .ok authority

/-- A Batch answers with the fact it started from until it is finalized. -/
def Answerable (e : Execution) (s : FinalizationTables) : Prop :=
  match e with
  | .beginBatchFinalization _ command => s.batchBasisOf command.batchId = none
  | _ => True

/-- An execution that starts with its digest stored, and gets its authority, answers with what is
stored. -/
theorem replays (hs : s.Consistent) (hdigest : e.SameDigest s) (hanswerable : e.Answerable s')
    (hauthorized : ∀ t rest, steps = (t, t) :: rest → e.Authorized reads t)
    (h : Thread Evolves (e.program reads) s steps (.done result) s') :
    ∃ answer, result = .ok answer ∧ e.Wins true answer s ∧ Unchanged steps := by
  cases e with
  | finalizeRun command =>
    obtain ⟨r, rfl, hthread⟩ := h.of_map
    obtain ⟨row, hrow, hrunId, hsame⟩ := hdigest
    obtain ⟨winner, hprojects⟩ := row.exists_projects
    obtain ⟨rfl, hunchanged⟩ :=
      FinalizeRun.replays hs hrow hrunId hprojects hsame hauthorized hthread
    exact ⟨_, rfl, ⟨winner, ⟨row, hrow, hrunId, hprojects⟩, rfl⟩, hunchanged⟩
  | beginBatchFinalization candidate command =>
    obtain ⟨r, rfl, hthread⟩ := h.of_map
    obtain ⟨fact, hfact, hid, hsame⟩ := hdigest
    have hwinner : (⟨fact.projection, (hs.facts fact hfact).projects⟩ :
      BatchFinalizationReadinessProjection).toFields = fact.projection := rfl
    obtain ⟨rfl, hunchanged⟩ := BeginBatchFinalization.replays hs hfact hid hwinner hsame
      (PostgresBatchFinalization.batchId_ne_of_none hanswerable) hauthorized hthread
    exact ⟨_, rfl, ⟨_, ⟨fact, hfact, hid, rfl⟩, rfl⟩, hunchanged⟩
  | finalizeBatch candidate command =>
    obtain ⟨r, rfl, hthread⟩ := h.of_map
    obtain ⟨stored, hstored, hid, hsame⟩ := hdigest
    have hwinner : (⟨stored.projection, (hs.batches stored hstored).projects⟩ :
      BatchFinalizationProjection).toFields = stored.projection := rfl
    obtain ⟨rfl, hunchanged⟩ :=
      FinalizeBatch.replays hs hstored hid hwinner hsame hauthorized hthread
    exact ⟨_, rfl, ⟨_, ⟨stored, hstored, hid, rfl⟩, rfl⟩, hunchanged⟩

end Execution

/-- However the executions are interleaved, with each other and with anything that leaves what is
final alone: no Run and no Batch gets a second basis, and none is ever changed; every execution
that ended settled, and the others have changed nothing yet; and one that starts later, under its
authority and with the digest that is stored, answers with what is stored. -/
theorem finalization_safety {ι : Type} [DecidableEq ι] {reads : BatchSourceReads}
    {executions : ι → Execution} {s₀ : FinalizationTables}
    {c₁ c₂ : Config ι FinalizationTables Raised Answer}
    {events₁ events₂ : List (Event ι FinalizationTables)} (hs : s₀.Consistent)
    (h₁ : Run KeepsFinal ⟨s₀, fun i => (executions i).program reads⟩ events₁ c₁)
    (h₂ : Run KeepsFinal c₁ events₂ c₂) :
    ((c₁.store.runBases.map (·.basis.runId)).Nodup ∧
      (c₁.store.batchBases.map (·.basis.resolutionSet.batchId)).Nodup) ∧
    (c₁.store.runBases <+: c₂.store.runBases ∧ c₁.store.batchBases <+: c₂.store.batchBases) ∧
    ∀ i, (∀ result, c₁.progs i = .done result →
        (executions i).Settled c₁.store (own i events₁) result) ∧
      ((∀ result, c₁.progs i ≠ .done result) →
        Unchanged (own i events₁) ∧ (own i events₁).length < 4) ∧
      (own i events₁ = [] → (executions i).SameDigest c₁.store →
        (executions i).Answerable c₂.store →
        (∀ t rest, own i events₂ = (t, t) :: rest → (executions i).Authorized reads t) →
        ∀ result, c₂.progs i = .done result → ∃ answer, result = .ok answer ∧
          (executions i).Wins true answer c₁.store ∧ Unchanged (own i events₂)) := by
  have henv : ∀ s s', KeepsFinal s s' → Evolves s s' := fun _ _ h => h.evolves
  have hg := fun i => (executions i).program_guarantees reads hs
  obtain ⟨hevolves, hg₁⟩ := h₁.related hg henv
  obtain ⟨hevolves₂, -⟩ := h₂.related hg₁ henv
  have hs₁ := hevolves.consistent hs
  refine ⟨⟨hs₁.runKeys, hs₁.batchKeys⟩, ⟨hevolves₂.runBases, hevolves₂.batchBases⟩, fun i => ?_⟩
  have hthread := h₁.thread hg henv i
  refine ⟨fun result hdone => ?_, fun hrunning => ⟨?_, ?_⟩, ?_⟩
  · rw [hdone] at hthread
    exact Execution.settled hs hthread
  · rcases hthread.unchanged_or_done ((executions i).program_oneWrite reads) with
      hunchanged | ⟨result, hdone⟩
    · exact hunchanged
    · exact absurd hdone (hrunning result)
  · by_contra hlong
    obtain ⟨result, hdone⟩ := hthread.done_of_length ((executions i).program_within reads)
      (Nat.le_of_not_lt hlong)
    exact hrunning result hdone
  · intro hfresh hdigest hanswerable hauthorized result hdone
    rw [hfresh] at hthread
    have hthread₂ := h₂.thread hg₁ henv i
    rw [hthread.of_nil, hdone] at hthread₂
    exact Execution.replays hs₁ hdigest hanswerable hauthorized hthread₂

/-- The row of the failed Run before it is closed. -/
def openRun : RunRow where
  batchId := "batch-1"
  version := 4
  currentFence := 1
  orchestrationPhase := .running
  disposition := none
  outcome := none
  finalizationBasisDigest := none

def runningBatch : BatchRow where
  version := 2
  state := .running
  writeEpoch := 1
  finalizationReadinessRef := none

/-- The tables before the failed Run is closed. -/
def openTables : FinalizationTables where
  runs := Function.update (fun _ => none) "run-1" (some openRun)
  batches := Function.update (fun _ => none) "batch-1" (some runningBatch)
  attempts := [{
    id := "attempt-1"
    runId := "run-1"
    fence := 1
    workerId := "worker-1"
    workerGeneration := 1
    specDigest := digestHex Digest.zero
    state := .testFailed
    version := 3
    assignmentId := "assignment-1" }]
  assignments := [⟨"assignment-1", some "attempt-1"⟩]
  evidence := [⟨"attempt-1", 1, digestHex Digest.zero⟩]
  adjudications := []
  runItemResolutions := []
  runBases := []
  readinessFacts := []
  batchItemResolutions := []
  batchBases := []
  auditEvents := []
  outboxEvents := []

theorem openTables_consistent : openTables.Consistent where
  attemptIds := List.nodup_singleton _
  runKeys := List.nodup_nil
  factKeys := List.nodup_nil
  batchKeys := List.nodup_nil
  runs _ hrow := absurd hrow List.not_mem_nil
  facts _ hfact := absurd hfact List.not_mem_nil
  batches _ hstored := absurd hstored List.not_mem_nil

theorem openTables_run : openTables.runs "run-1" = some openRun := by
  simp only [openTables, Function.update_self]

theorem openTables_batch : openTables.batches "batch-1" = some runningBatch := by
  simp only [openTables, Function.update_self]

theorem openAuthority_accepted {digest : Digest} :
    FinalizeRunAuthority.Fields.postInit ⟨"run-1", "batch-1", 4, digest, 1⟩ = .ok () := by
  have hdigest : FinalizeRunAuthority.Fields.postInit ⟨"run-1", "batch-1", 4, digest, 1⟩ =
      FinalizeRunAuthority.Fields.postInit ⟨"run-1", "batch-1", 4, Digest.zero, 1⟩ := rfl
  rw [hdigest]
  decide

def openAuthority (digest : Digest) : FinalizeRunAuthority where
  toFields := ⟨"run-1", "batch-1", 4, digest, 1⟩
  accepted := openAuthority_accepted

def openSnapshot : RunFinalizationMutationSnapshot where
  toFields := ⟨"run-1", 4, some "attempt-1", some 3⟩
  accepted := by decide

section
variable {s o e digest : Digest} {t : FinalizationTables} {run : RunRow}
  {command : FinalizeRunCommand} {p : RunFinalizationPublication}

/-- The authority is the one of version 4, before and after the Run is closed. -/
theorem openAuthority_granted
    (hdigest : PostgresRunFinalization.authorityDigest "run-1" "batch-1" 4 1 1 = .ok digest)
    (hrun : t.runs "run-1" = some run) (hbatchId : run.batchId = "batch-1")
    (hfence : run.currentFence = 1) (hbatch : t.batches "batch-1" = some runningBatch)
    (hphase : decide (run.orchestrationPhase = .closed) = (t.runBasisOf "run-1").isSome)
    (hversion : ((t.runBasisOf "run-1").map (·.basis.sourceRunVersion)).getD run.version = 4) :
    PostgresRunFinalization.requireFinalizationAuthority t "run-1" =
      .ok (openAuthority digest) := by
  simp only [PostgresRunFinalization.requireFinalizationAuthority, bind_eq_ok, exists_unit,
    need_eq_ok, Raises.conflictIf_eq_ok, Raises.domain_eq_ok, Raises.port_eq_ok,
    FinalizeRunAuthority.new, construct_eq_ok]
  refine ⟨run, hrun, runningBatch, hbatchId ▸ hbatch, by decide, not_not_intro hphase, digest,
    ?_, ?_⟩
  · rw [hversion, hbatchId, hfence]
    exact hdigest
  · rw [hversion, hbatchId]
    exact ⟨openAuthority_accepted, rfl⟩

theorem openAuthority_authorized (hcommand : command.candidateBasis = claiming none s o e)
    (hrequired : PostgresRunFinalization.requireFinalizationAuthority t "run-1" =
      .ok (openAuthority digest)) :
    FinalizeRun.authorized command t = .ok (openAuthority digest) := by
  refine FinalizeRun.authorized_eq_ok.mpr ⟨?_, ?_⟩
  · rw [hcommand]
    exact hrequired
  · rw [FinalizeRun.requireSource, hcommand]
    rfl

theorem openSnapshot_locked :
    PostgresRunFinalization.getMutationSnapshotForUpdate openTables "run-1" =
      .ok openSnapshot := by
  simp only [PostgresRunFinalization.getMutationSnapshotForUpdate, bind_eq_ok, need_eq_ok,
    Raises.port_eq_ok, RunFinalizationMutationSnapshot.new, construct_eq_ok]
  exact ⟨openRun, openTables_run, openSnapshot.accepted, rfl⟩

/-- The publication that every execution of the command prepares. -/
theorem exists_prepared_claim (hbasis : command.candidateBasis = claiming none s o e)
    (hset : command.resolutionSet = oneRunSet failedItem)
    (hversion : command.expectedRunVersion = 4)
    (hattempt : command.expectedAttemptVersion = some 3) (digest : Digest) :
    ∃ p, FinalizeRun.prepare command (openAuthority digest) openSnapshot = .ok p ∧
      p.expectedSnapshot = openSnapshot := by
  obtain ⟨-, -, hmismatch, -⟩ := FinalizeRunCommand.Fields.postInit_eq_ok.mp command.accepted
  obtain ⟨-, -, -, hs, -⟩ := FinalizeRunCommand.Fields.basisMismatch_eq_ok.mp hmismatch
  obtain ⟨handoff, hhandoff⟩ := claiming_handoff hbasis hset digest
  rw [hbasis, hset] at hs hhandoff
  obtain ⟨d, hd⟩ := claimingDigest_ok (s := s) (o := o) (e := e) none
  have hstate : RunFinalizationState.Fields.postInit (closedState (claiming none s o e) d) =
    .ok () := rfl
  have hprojection : RunFinalizationProjection.Fields.postInit ⟨"run-1", 4, ⟨_, hstate⟩⟩ =
    .ok () := rfl
  have heffect : RunFinalizationSideEffect.Fields.postInit ⟨"run-1", d, .testFailed⟩ = .ok () := rfl
  have hbinding : RunFinalizationPublication.Fields.postInit {
      authority := openAuthority digest
      expectedSnapshot := openSnapshot
      basis := claiming none s o e
      resolutionSet := oneRunSet failedItem
      projection := ⟨_, hprojection⟩
      sideEffect := ⟨_, heffect⟩
      handoff := handoff } = .ok () := by
    simp only [RunFinalizationPublication.Fields.postInit, bind_eq_ok, Raises.port_eq_ok,
      Port.invalidIf_eq_ok, Bool.not_eq_true]
    refine ⟨false, ?_, rfl⟩
    simp only [RunFinalizationPublication.Fields.bindingMismatch, anyOf_eq_ok_false,
      List.forall_mem_cons, differs_eq_ok_false, Raises.domain_eq_ok, Raises.handoff_eq_ok]
    exact ⟨rfl, hd, rfl, hs, rfl, hd, rfl, hhandoff, List.forall_mem_nil _⟩
  refine ⟨⟨_, hbinding⟩, ?_, rfl⟩
  simp only [FinalizeRun.prepare, bind_eq_ok, exists_unit, Raises.domain_eq_ok, Raises.port_eq_ok,
    Raises.handoff_eq_ok, RunFinalizationState.new_eq_ok, RunFinalizationProjection.new_eq_ok,
    RunFinalizationPublication.new_eq_ok, FinalizeRun.requireVersions, Raises.refuseIf_eq_ok,
    hbasis, hset, hversion, hattempt]
  exact ⟨⟨not_not_intro rfl, not_not_intro rfl⟩, d, hd, ⟨_, hstate⟩, rfl, ⟨_, hprojection⟩, rfl,
    ⟨_, heffect⟩, construct_of_ok heffect, handoff, hhandoff, rfl⟩

/-- The first of these publications is stored. -/
theorem openTables_published (hbasis : p.basis = claiming none s o e)
    (hauthority : p.authority = openAuthority digest)
    (hsnapshot : p.expectedSnapshot = openSnapshot)
    (hrequired : PostgresRunFinalization.requireFinalizationAuthority openTables "run-1" =
      .ok (openAuthority digest)) : ∃ t,
    PostgresRunFinalization.publishFinalization openTables p = .ok (⟨p.projection, false⟩, t) := by
  have hrunId : p.projection.runId = "run-1" := by
    rw [← p.bound.runId, hbasis]
    rfl
  have hverified : requireVerifiedTerminalInput openTables.factTables (claiming none s o e) =
      .ok () := by
    refine requireVerifiedTerminalInput_eq_ok.mpr fun _ _ => ⟨Digest.zero, rfl, ?_⟩
    simp [verifiedInput, openTables, FinalizationTables.factTables, claiming, closing, failedItem,
      failedFact]
  have hattempts : ∃ attempts,
      PostgresRunFinalization.publishAttemptTerminal openTables p = .ok attempts := by
    simp only [PostgresRunFinalization.publishAttemptTerminal, hbasis]
    exact ⟨_, rfl⟩
  have hrun : ∃ run, PostgresRunFinalization.publishRunProjection openTables p = .ok run := by
    simp only [PostgresRunFinalization.publishRunProjection, hrunId, openTables_run, hauthority,
      hsnapshot]
    exact ⟨_, rfl⟩
  have hrows : ∃ t, PostgresRunFinalization.publishRows openTables p = .ok t := by
    obtain ⟨attempts, hattempts⟩ := hattempts
    obtain ⟨run, hrun⟩ := hrun
    have hdigest := p.bound.digest
    rw [hbasis] at hdigest
    simp only [PostgresRunFinalization.publishRows, hbasis, hverified, hdigest, hattempts, hrun]
    exact ⟨_, rfl⟩
  obtain ⟨t, ht⟩ := hrows
  refine ⟨t, ?_⟩
  simp only [PostgresRunFinalization.publishFinalization, hrunId, hrequired, hauthority,
    openSnapshot_locked, hsnapshot, ht, bind_eq_ok, exists_unit, Raises.conflictIf_eq_ok]
  exact ⟨_, rfl, not_not_intro rfl, rfl⟩

/-- After it the authority is still granted, and the same publication returns what is stored. -/
theorem published_again (hbasis : command.candidateBasis = claiming none s o e)
    (hdigest : PostgresRunFinalization.authorityDigest "run-1" "batch-1" 4 1 1 = .ok digest)
    (hp : FinalizeRun.Prepared command (openAuthority digest) p)
    (hpublish : PostgresRunFinalization.publishFinalization openTables p =
      .ok (⟨p.projection, false⟩, t)) :
    ⟨p.basis, p.projection.basisDigest⟩ ∈ t.runBases ∧
      PostgresRunFinalization.requireFinalizationAuthority t "run-1" =
        .ok (openAuthority digest) ∧
      PostgresRunFinalization.publishFinalization t p = .ok (⟨p.projection, true⟩, t) := by
  have hclaim : p.basis = claiming none s o e := hp.basis.trans hbasis
  have hrunId : p.projection.runId = "run-1" := by
    rw [← p.bound.runId, hclaim]
    rfl
  rcases PostgresRunFinalization.publishFinalization_eq_ok hpublish with
    ⟨_, -, -, hreplayed, -⟩ | ⟨hnone, -, hw⟩
  · cases hreplayed
  have hs : t.Consistent :=
    (PostgresRunFinalization.evolves_of_written hp.state hw hnone).consistent openTables_consistent
  have hrow : ⟨p.basis, p.projection.basisDigest⟩ ∈ t.runBases := by
    rw [hw.runBases]
    exact List.mem_concat_self
  have hfind : t.runBasisOf "run-1" = some ⟨p.basis, p.projection.basisDigest⟩ := by
    rw [← hrunId, ← p.bound.runId]
    exact Keyed.find_of_mem hs.runKeys hrow
  have hrequired : PostgresRunFinalization.requireFinalizationAuthority t "run-1" =
      .ok (openAuthority digest) := by
    obtain ⟨run, hrun, -, hruns⟩ := hw.run
    rw [hrunId, openTables_run] at hrun
    cases hrun
    have hclosed := congrFun hruns "run-1"
    rw [hrunId, Function.update_self] at hclosed
    refine openAuthority_granted hdigest hclosed rfl rfl (hw.batches ▸ openTables_batch) ?_ ?_
    · rw [hfind, congrArg (·.phase) hp.state]
      rfl
    · rw [hfind, hclaim]
      rfl
  refine ⟨hrow, hrequired, ?_⟩
  have hlookup := PostgresRunFinalization.lookupStored_of_mem hs hrow
    (PostgresRunFinalization.projects_of_written hp.state)
  have hreplay : PostgresRunFinalization.replayStored t p
      ⟨p.basis, p.projection.basisDigest⟩ = .ok p.projection := by
    simp only [PostgresRunFinalization.replayStored, bind_eq_ok, exists_unit, Raises.domain_eq_ok,
      Raises.refuseIf_eq_ok, need_eq_ok]
    refine ⟨_, p.bound.digest, not_not_intro ⟨p.bound.version, rfl⟩, _, ?_, rfl⟩
    rw [hp.authority]
    rw [hclaim] at hlookup
    exact hlookup
  simp only [PostgresRunFinalization.publishFinalization, hrunId, hrequired, hp.authority, hfind,
    hreplay, bind_eq_ok, exists_unit, Raises.conflictIf_eq_ok]
  exact ⟨_, rfl, not_not_intro rfl, _, rfl, rfl⟩

/-- Both executions have read everything before either of them publishes. -/
def raceEvents (t : FinalizationTables) : List (Event ℕ FinalizationTables) :=
  List.replicate 3 ⟨some 0, openTables, openTables⟩ ++
    List.replicate 3 ⟨some 1, openTables, openTables⟩ ++ [⟨some 0, openTables, t⟩, ⟨some 1, t, t⟩]

theorem race (reads : BatchSourceReads) (hbasis : command.candidateBasis = claiming none s o e)
    (hrequired : PostgresRunFinalization.requireFinalizationAuthority openTables "run-1" =
      .ok (openAuthority digest))
    (hprepare : FinalizeRun.prepare command (openAuthority digest) openSnapshot = .ok p)
    (hpublish : PostgresRunFinalization.publishFinalization openTables p =
      .ok (⟨p.projection, false⟩, t))
    (hrepeat : PostgresRunFinalization.publishFinalization t p = .ok (⟨p.projection, true⟩, t)) :
    ∃ c : Config ℕ FinalizationTables Raised Answer,
      Run KeepsFinal ⟨openTables, fun _ => (Execution.finalizeRun command).program reads⟩
        (raceEvents t) c ∧
      c.store = t ∧ c.progs 0 = .done (.ok (.run ⟨p.projection, false⟩)) ∧
      c.progs 1 = .done (.ok (.run ⟨p.projection, true⟩)) ∧
      c.progs 2 = (Execution.finalizeRun command).program reads := by
  let handler := FinalizeRun.handler PostgresRunFinalization.gateway command
  let answered (r : ReplayResult RunFinalizationProjection) :
      Prog FinalizationTables Raised Answer := pure (.run (handler.finish r))
  let publishing := Prog.call (handler.publish p) >>= answered
  have hlock : handler.lock (openAuthority digest) openTables = .ok openSnapshot := by
    show PostgresRunFinalization.getMutationSnapshotForUpdate openTables
      command.candidateBasis.runId = _
    rw [hbasis]
    exact openSnapshot_locked
  have hload : ∀ (progs : ℕ → Prog FinalizationTables Raised Answer) (i : ℕ),
      progs i = (Execution.finalizeRun command).program reads → Run KeepsFinal ⟨openTables, progs⟩
        (List.replicate 3 ⟨some i, openTables, openTables⟩)
        ⟨openTables, Function.update progs i publishing⟩ := by
    intro progs i hi
    exact Handler.run_loaded (c := ⟨openTables, progs⟩) hi (FinalizeRun.require_eq command)
      (openAuthority_authorized hbasis hrequired) rfl rfl hlock hprepare
  have hloaded := (hload (fun _ => _) 0 rfl).append (hload _ 1 rfl)
  let loaded := Function.update (Function.update (fun _ : ℕ =>
    (Execution.finalizeRun command).program reads) 0 publishing) 1 publishing
  let stored := Function.update loaded 0 (answered ⟨p.projection, false⟩)
  have hrepeated : Run KeepsFinal ⟨t, stored⟩ [⟨some 1, t, t⟩]
      ⟨t, Function.update stored 1 (answered ⟨p.projection, true⟩)⟩ :=
    Run.of_call (f := answered) rfl hrepeat (.refl _)
  have hpublished : Run KeepsFinal ⟨openTables, loaded⟩ _ _ :=
    Run.of_call (i := 0) (f := answered) rfl hpublish hrepeated
  exact ⟨_, hloaded.append hpublished, rfl, rfl, rfl, rfl⟩

end

/-- Two executions close the failed Run at once: the first to publish stores its basis, the other
answers with it, and so does a third one that starts only then. -/
theorem finalization_safety_raced : ∃ (reads : BatchSourceReads) (command : FinalizeRunCommand)
    (t : FinalizationTables) (c₁ c₂ : Config ℕ FinalizationTables Raised Answer)
    (events : List (Event ℕ FinalizationTables)) (p : RunFinalizationProjection),
    Run KeepsFinal ⟨openTables, fun _ => (Execution.finalizeRun command).program reads⟩
      (raceEvents t) c₁ ∧
    Run KeepsFinal c₁ events c₂ ∧
    (Execution.finalizeRun command).Settled t (own 0 (raceEvents t)) (.ok (.run ⟨p, false⟩)) ∧
    (Execution.finalizeRun command).Settled t (own 1 (raceEvents t)) (.ok (.run ⟨p, true⟩)) ∧
    t.runBases <+: c₂.store.runBases ∧ ∃ answer, c₂.progs 2 = .done (.ok answer) ∧
      (Execution.finalizeRun command).Wins true answer t ∧ Unchanged (own 2 events) := by
  obtain ⟨command, s, o, e, hbasis, hset, hversion, hattempt⟩ := exists_claiming none
  obtain ⟨digest, hdigest⟩ : ∃ digest,
      PostgresRunFinalization.authorityDigest "run-1" "batch-1" 4 1 1 = .ok digest :=
    canonicalDigest_of_valid rfl
  have hrequired := openAuthority_granted hdigest openTables_run rfl rfl openTables_batch rfl rfl
  obtain ⟨p, hprepare, hsnapshot⟩ := exists_prepared_claim hbasis hset hversion hattempt digest
  have hp := FinalizeRun.prepared hprepare
  obtain ⟨t, hpublish⟩ :=
    openTables_published (hp.basis.trans hbasis) hp.authority hsnapshot hrequired
  obtain ⟨hrow, hagain, hrepeat⟩ := published_again hbasis hdigest hp hpublish
  let reads : BatchSourceReads := ⟨fun _ source => .ok source, fun _ _ => .ok ()⟩
  obtain ⟨c₁, h₁, rfl, hfirst, hsecond, hthird⟩ :=
    race reads hbasis hrequired hprepare hpublish hrepeat
  obtain ⟨events, c₂, result, h₂, hdone, hactor⟩ := Run.exists_end (c := c₁) (i := 2) KeepsFinal
    (hthird ▸ (Execution.finalizeRun command).program_within reads)
  obtain ⟨-, ⟨hkept, -⟩, hall⟩ := finalization_safety openTables_consistent h₁ h₂
  have hauthorized : ∀ u rest, own 2 events = (u, u) :: rest →
      (Execution.finalizeRun command).Authorized reads u := by
    intro u rest hown
    have hu : u = c₁.store := h₂.own_head hactor hown
    rw [hu]
    exact ⟨_, openAuthority_authorized hbasis hagain⟩
  obtain ⟨answer, rfl, hwins, hunchanged⟩ := (hall 2).2.2 rfl
    ⟨_, hrow, congrArg (·.runId) hp.basis, hp.basis ▸ p.bound.digest⟩ trivial hauthorized result
    hdone
  exact ⟨reads, command, _, c₁, c₂, events, p.projection, h₁, h₂, (hall 0).1 _ hfirst,
    (hall 1).1 _ hsecond, hkept, answer, hdone, hwins, hunchanged⟩

end QaRunner
