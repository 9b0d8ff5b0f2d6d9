import QaRunner.Application.BatchPreexecution
import QaRunner.Domain.BatchLifecycle

/-! Issuing a pre-execution command again on the Batch it closed: the handlers compare the scope
kinds of two vocabularies, which agree on one kind only. -/
namespace QaRunner
open Guarded Application

/-- A closure basis before the plan holds nothing of a plan. -/
theorem BatchPreexecutionClosureBasis.preplan_facts {b : BatchPreexecutionClosureBasis}
    (h : b.scopeKind = .prePlan) : b.manifestDigest = none ∧ b.shardPlanVersion = none ∧
      b.shardPlanDigest = none ∧ b.canonicalRunSetDigest = none := by
  have haccepted := b.accepted
  simp only [Fields.postInit, then_eq_ok, h] at haccepted
  obtain ⟨-, -, -, -, -, -, -, hscope⟩ := haccepted
  simp only [requirePreplanScope, then_eq_ok, each_eq_ok, invalidIf_eq_ok, List.forall_mem_cons,
    Bool.not_eq_true, Option.isSome_eq_false_iff, Option.isNone_iff_eq_none] at hscope
  obtain ⟨-, hmanifest, hversion, hplan, hruns, -⟩ := hscope
  exact ⟨hmanifest, hversion, hplan, hruns⟩

theorem BatchCancellationScope.preplan_facts {s : BatchCancellationScope}
    (h : s.kind = .prePlan) : s.manifestDigest = none ∧ s.shardPlanVersion = none ∧
      s.shardPlanDigest = none ∧ s.canonicalRunSetDigest = none := by
  have haccepted := s.accepted
  simp only [Fields.postInit, h, then_eq_ok, each_eq_ok, invalidIf_eq_ok, List.forall_mem_cons,
    Bool.not_eq_true, Option.isSome_eq_false_iff, Option.isNone_iff_eq_none] at haccepted
  obtain ⟨-, hmanifest, hversion, hplan, hruns, -⟩ := haccepted
  exact ⟨hmanifest, hversion, hplan, hruns⟩

/-- Under the scope a Batch was closed with, the comparison of a replay passes only before the
plan: the frozen plan has another name on each side. -/
theorem basisMatchesAuthorityScope_iff {basis : BatchPreexecutionClosureBasis}
    {scope : BatchCancellationScope} (h : basis.scope.covers scope = true) :
    basisMatchesAuthorityScope basis scope ↔ scope.kind = .prePlan := by
  constructor
  · rintro ⟨hkind, -⟩
    cases hscope : scope.kind with
    | prePlan => rfl
    | frozenPlan =>
      rw [hscope] at hkind
      cases hbasis : basis.scopeKind <;> rw [hbasis] at hkind <;> revert hkind <;> decide
  · intro hkind
    simp only [ClosureScope.covers, hkind, BatchPreexecutionClosureBasis.scope, Bool.and_eq_true,
      beq_iff_eq] at h
    obtain ⟨hbasis, hpreplan⟩ := h
    obtain ⟨hm, hv, hp, hr⟩ := BatchPreexecutionClosureBasis.preplan_facts hbasis
    obtain ⟨hm', hv', hp', hr'⟩ := BatchCancellationScope.preplan_facts hkind
    refine ⟨?_, hpreplan, ?_, ?_, ?_, ?_⟩
    · rw [hbasis, hkind]
      rfl
    · rw [hm, hm']
    · rw [hv, hv']
    · rw [hp, hp']
    · rw [hr, hr']

/-- The Batch was closed under this scope. -/
def Batch.ClosedUnder (b : Batch) (scope : BatchCancellationScope) : Prop :=
  ∃ basis, b.preexecutionClosureBasis = some basis ∧ basis.scope.covers scope = true

/-- A cancelled Batch was closed under the scope its intent froze. -/
theorem Batch.closedUnder_of_recordCancel {b b' : Batch} {intent : BatchCancellationIntent}
    {snapshot : BatchPreexecutionSnapshot} {v : ℤ} (hintent : b.cancellationIntent = some intent)
    (h : b.recordCancel snapshot v = .ok b') : b'.ClosedUnder intent.scope := by
  obtain ⟨-, -, -, stored, hstored, -, -, _, basis, -, -, hbuild, hnext⟩ :=
    recordCancel_eq_ok.mp h
  cases hintent.symm.trans hstored
  obtain ⟨_, -, hfields⟩ := buildPreexecutionBasis_eq_ok.mp hbuild
  have hbasis : b'.preexecutionClosureBasis = some basis := by rw [hnext]
  obtain ⟨-, -, closing, -, hclosing, -, -, hcovers⟩ :=
    cancellation_facts hbasis (by rw [hfields])
  have hsame : b'.cancellationIntent = some intent := by rw [hnext]; exact hintent
  cases hsame.symm.trans hclosing
  exact ⟨basis, hbasis, hcovers⟩

/-- A gateway answers about the Batch it is asked for. -/
structure BatchPreexecutionGateway.Serves (g : BatchPreexecutionGateway) (batchId : Str) :
    Prop where
  closure : ∀ reconcilerId epoch authority,
    g.requireClosureAuthority batchId reconcilerId epoch = .ok authority →
      authority.batchId = batchId
  batch : ∀ b, g.getBatchForUpdate batchId = .ok b → b.id = batchId

namespace ReconcilePreexecutionCancellation

variable {g g' : BatchPreexecutionGateway} {p p' : PreexecutionProofGateway}
  {command : ReconcilePreexecutionCancellationCommand} {authority : BatchClosureAuthority}
  {batch closed : Batch} {intent : BatchCancellationIntent}

theorem replay_eq_ok {basis : BatchPreexecutionClosureBasis} {result : Done Reconciled} :
    replay authority batch intent basis = .ok result ↔
      (basis.batchId = authority.batchId ∧
        basis.sourceBatchVersion = authority.sourceBatchVersion ∧
        basis.terminalKind = .prestartCancel) ∧
      (∃ digest, intent.digest = .ok digest ∧ basis.batchCancellationIntentDigest = some digest ∧
        basisMatchesAuthorityScope basis authority.scope) ∧ result = ⟨.batch batch, []⟩ := by
  simp only [replay, bind_eq_ok, exists_unit, raiseIf_eq_ok, lift_eq_ok, not_or, ne_eq, not_not,
    pure_eq_ok]
  constructor
  · rintro ⟨hauthority, digest, hdigest, hbound, rfl⟩
    exact ⟨hauthority, ⟨digest, hdigest, hbound⟩, rfl⟩
  · rintro ⟨hauthority, ⟨digest, hdigest, hbound⟩, rfl⟩
    exact ⟨hauthority, digest, hdigest, hbound, rfl⟩

/-- Closing without a handoff finalizes the Batch and publishes what it returns. -/
theorem close_batch {effects : List Effect}
    (h : close g p command authority batch intent = .ok ⟨.batch closed, effects⟩) :
    effects = [.publishPreexecutionClosure closed] ∧ ∃ snapshot,
      batch.finalizeUnmaterializedCancel snapshot authority.sourceBatchVersion = .ok closed := by
  simp only [close, bind_eq_ok] at h
  obtain ⟨-, -, proved, -, h⟩ := h
  cases proved with
  | materialized scope =>
    simp only [bind_eq_ok, pure_eq_ok, Done.mk.injEq, reduceCtorEq, false_and, and_false,
      exists_false] at h
  | zeroChild snapshot =>
    simp only [bind_eq_ok, exists_unit, lift_eq_ok, pure_eq_ok, Done.mk.injEq,
      Reconciled.batch.injEq] at h
    obtain ⟨_, hclosed, -, rfl, rfl⟩ := h
    exact ⟨rfl, snapshot, hclosed⟩

/-- A returned Batch was stored closed already, or is closed and published now. -/
theorem execute_batch {effects : List Effect}
    (h : execute g p command = .ok ⟨.batch closed, effects⟩)
    (hauthority : g.requireClosureAuthority command.batchId command.reconcilerId
      command.closureEpoch = .ok authority) :
    effects = [] ∨ effects = [.publishPreexecutionClosure closed] ∧ ∃ batch snapshot,
      g.getBatchForUpdate command.batchId = .ok batch ∧
      batch.recordCancel snapshot authority.sourceBatchVersion = .ok closed := by
  simp only [execute, hauthority, requireAuthority, ok_bind, bind_eq_ok, need_eq_ok] at h
  obtain ⟨batch, hbatch, intent, hintent, h⟩ := h
  cases hbasis : batch.preexecutionClosureBasis with
  | some basis =>
    simp only [hbasis] at h
    obtain ⟨-, -, hresult⟩ := replay_eq_ok.mp h
    exact Or.inl (Done.mk.inj hresult).2
  | none =>
    simp only [hbasis] at h
    obtain ⟨heffects, snapshot, hclosed⟩ := close_batch h
    simp only [Batch.finalizeUnmaterializedCancel, hintent, hbasis] at hclosed
    exact Or.inr ⟨heffects, batch, snapshot, hbatch, hclosed⟩

/-- A closed Batch is returned again, without a second publication, exactly before the plan. -/
theorem execute_replay_iff (hserves : g.Serves command.batchId)
    (hauthority : g.requireClosureAuthority command.batchId command.reconcilerId
      command.closureEpoch = .ok authority)
    (hclosed : execute g p command = .ok ⟨.batch closed, [.publishPreexecutionClosure closed]⟩)
    (hunder : closed.ClosedUnder authority.scope)
    (hauthority' : g'.requireClosureAuthority command.batchId command.reconcilerId
      command.closureEpoch = .ok authority)
    (hstored : g'.getBatchForUpdate command.batchId = .ok closed) :
    execute g' p' command = .ok ⟨.batch closed, []⟩ ↔ authority.scope.kind = .prePlan := by
  obtain ⟨-, batch, snapshot, hbatch, hrecord⟩ :=
    (execute_batch hclosed hauthority).resolve_left (by simp)
  obtain ⟨-, ⟨-, hversion⟩, -, intent, hintent, ⟨hid, hsource⟩, -, digest, basis, hdigest, -,
    hbuild, hnext⟩ := Batch.recordCancel_eq_ok.mp hrecord
  obtain ⟨_, -, hfields⟩ := buildPreexecutionBasis_eq_ok.mp hbuild
  have hintent' : closed.cancellationIntent = some intent := by rw [hnext]; exact hintent
  have hbasis' : closed.preexecutionClosureBasis = some basis := by rw [hnext]
  obtain ⟨_, hsame, hcovers⟩ := hunder
  cases hbasis'.symm.trans hsame
  rw [← basisMatchesAuthorityScope_iff hcovers]
  simp only [execute, hauthority', requireAuthority, ok_bind, hstored, hintent', need, hbasis']
  rw [replay_eq_ok]
  constructor
  · rintro ⟨-, ⟨-, -, -, hmatches⟩, -⟩
    exact hmatches
  · intro hmatches
    refine ⟨⟨?_, ?_, ?_⟩, ⟨digest, hdigest, ?_, hmatches⟩, rfl⟩
    · rw [hfields, hserves.closure _ _ _ hauthority, ← hserves.batch _ hbatch]
      exact hid
    · rw [hfields, hversion]
      exact hsource
    · rw [hfields]
    · rw [hfields]

end ReconcilePreexecutionCancellation

namespace RecordPreexecutionRejection

variable {g g' : BatchPreexecutionGateway} {p p' : PreexecutionProofGateway}
  {command : RecordPreexecutionRejectionCommand} {authority : BatchRejectionAuthority}
  {batch closed : Batch} {rejection : BatchRejection}

theorem replay_eq_ok {stored : BatchRejection} {result : Done Batch} :
    replay authority batch stored rejection = .ok result ↔
      (∃ digest, stored.digest = .ok digest ∧ rejection.digest = .ok digest) ∧
      (∃ basis, batch.preexecutionClosureBasis = some basis ∧
        basisMatchesAuthorityScope basis authority.scope) ∧ result = ⟨batch, []⟩ := by
  simp only [replay, bind_eq_ok, exists_unit, raiseIf_eq_ok, lift_eq_ok, ne_eq, not_not, need_eq_ok,
    pure_eq_ok]
  constructor
  · rintro ⟨digest, hstored, _, hreceived, rfl, basis, hbasis, hmatches, rfl⟩
    exact ⟨⟨digest, hstored, hreceived⟩, ⟨basis, hbasis, hmatches⟩, rfl⟩
  · rintro ⟨⟨digest, hstored, hreceived⟩, ⟨basis, hbasis, hmatches⟩, rfl⟩
    exact ⟨digest, hstored, digest, hreceived, rfl, basis, hbasis, hmatches, rfl⟩

/-- Recording without a handoff rejects the Batch and publishes what it returns. -/
theorem record_batch {effects : List Effect}
    (h : record g p authority batch rejection = .ok ⟨closed, effects⟩) :
    effects = [.publishPreexecutionRejection closed rejection] ∧ ∃ snapshot,
      batch.recordRejection rejection snapshot authority.sourceBatchVersion = .ok closed := by
  simp only [record, bind_eq_ok, exists_unit, raiseIf_eq_ok, Option.not_isSome_iff_eq_none] at h
  obtain ⟨hnone, -, -, -, proved, -, h⟩ := h
  cases proved with
  | materialized scope =>
    simp only [bind_eq_ok, throw_eq_ok, and_false, exists_false] at h
  | zeroChild snapshot =>
    simp only [bind_eq_ok, exists_unit, lift_eq_ok, pure_eq_ok, Done.mk.injEq] at h
    obtain ⟨_, hclosed, -, rfl, rfl⟩ := h
    simp only [Batch.rejectPreexecution, hnone] at hclosed
    exact ⟨rfl, snapshot, hclosed⟩

/-- A returned Batch was stored rejected already, or is rejected and published now. -/
theorem execute_batch {effects : List Effect} (h : execute g p command = .ok ⟨closed, effects⟩)
    (hauthority : g.requireRejectionAuthority command.batchId command.phaseOwnerId
      command.rejectionEpoch = .ok authority) :
    effects = [] ∨ ∃ built, effects = [.publishPreexecutionRejection closed built] ∧
      buildRejection command authority = .ok built ∧ ∃ batch : Batch, ∃ snapshot,
      batch.recordRejection built snapshot authority.sourceBatchVersion = .ok closed := by
  simp only [execute, hauthority, requireAuthority, ok_bind, bind_eq_ok, lift_eq_ok] at h
  obtain ⟨built, hbuilt, batch, -, h⟩ := h
  have recorded : record g p authority batch built = .ok ⟨closed, effects⟩ →
      ∃ built, effects = [.publishPreexecutionRejection closed built] ∧
      buildRejection command authority = .ok built ∧ ∃ batch : Batch, ∃ snapshot,
      batch.recordRejection built snapshot authority.sourceBatchVersion = .ok closed := by
    intro hrecord
    obtain ⟨heffects, snapshot, hclosed⟩ := record_batch hrecord
    exact ⟨built, heffects, hbuilt, batch, snapshot, hclosed⟩
  split at h
  · split at h
    · obtain ⟨-, -, hresult⟩ := replay_eq_ok.mp h
      exact Or.inl (Done.mk.inj hresult).2
    · exact Or.inr (recorded h)
  · exact Or.inr (recorded h)

/-- A rejected Batch is returned again, without a second publication, exactly before the plan. -/
theorem execute_replay_iff (hauthority : g.requireRejectionAuthority command.batchId
      command.phaseOwnerId command.rejectionEpoch = .ok authority)
    (hclosed : execute g p command =
      .ok ⟨closed, [.publishPreexecutionRejection closed rejection]⟩)
    (hunder : closed.ClosedUnder authority.scope)
    (hauthority' : g'.requireRejectionAuthority command.batchId command.phaseOwnerId
      command.rejectionEpoch = .ok authority)
    (hstored : g'.getBatchForUpdate authority.batchId = .ok closed) :
    execute g' p' command = .ok ⟨closed, []⟩ ↔ authority.scope.kind = .prePlan := by
  obtain ⟨built, -, hbuilt, batch, snapshot, hrecord⟩ :=
    (execute_batch hclosed hauthority).resolve_left (by simp)
  obtain ⟨-, -, -, -, -, -, digest, basis, hdigest, -, -, hnext⟩ :=
    Batch.recordRejection_eq_ok.mp hrecord
  have hrejection' : closed.rejectionFact = some built := by rw [hnext]
  have hbasis' : closed.preexecutionClosureBasis = some basis := by rw [hnext]
  obtain ⟨_, hsame, hcovers⟩ := hunder
  cases hbasis'.symm.trans hsame
  rw [← basisMatchesAuthorityScope_iff hcovers]
  simp only [execute, hauthority', requireAuthority, ok_bind, hbuilt, lift, hstored, hrejection',
    if_true]
  rw [replay_eq_ok]
  constructor
  · rintro ⟨-, ⟨again, hagain, hmatches⟩, -⟩
    cases hbasis'.symm.trans hagain
    exact hmatches
  · intro hmatches
    exact ⟨⟨digest, hdigest, hdigest⟩, ⟨basis, hbasis', hmatches⟩, rfl⟩

end RecordPreexecutionRejection

/-- A pre-execution command that closed a Batch and is issued again, under the same authority and
on the stored Batch, returns that Batch and publishes nothing exactly when the scope it was closed
under is the one before the plan. -/
theorem preexecution_replay_iff (g g' : BatchPreexecutionGateway)
    (p p' : PreexecutionProofGateway) (closed : Batch) :
    (∀ (command : ReconcilePreexecutionCancellationCommand) (authority : BatchClosureAuthority),
      g.Serves command.batchId →
      g.requireClosureAuthority command.batchId command.reconcilerId command.closureEpoch =
        .ok authority →
      ReconcilePreexecutionCancellation.execute g p command =
        .ok ⟨.batch closed, [.publishPreexecutionClosure closed]⟩ →
      closed.ClosedUnder authority.scope →
      g'.requireClosureAuthority command.batchId command.reconcilerId command.closureEpoch =
        .ok authority →
      g'.getBatchForUpdate command.batchId = .ok closed →
      (ReconcilePreexecutionCancellation.execute g' p' command = .ok ⟨.batch closed, []⟩ ↔
        authority.scope.kind = .prePlan)) ∧
    ∀ (command : RecordPreexecutionRejectionCommand) (authority : BatchRejectionAuthority)
      (rejection : BatchRejection),
      g.requireRejectionAuthority command.batchId command.phaseOwnerId command.rejectionEpoch =
        .ok authority →
      RecordPreexecutionRejection.execute g p command =
        .ok ⟨closed, [.publishPreexecutionRejection closed rejection]⟩ →
      closed.ClosedUnder authority.scope →
      g'.requireRejectionAuthority command.batchId command.phaseOwnerId command.rejectionEpoch =
        .ok authority →
      g'.getBatchForUpdate authority.batchId = .ok closed →
      (RecordPreexecutionRejection.execute g' p' command = .ok ⟨closed, []⟩ ↔
        authority.scope.kind = .prePlan) :=
  ⟨fun _ _ hserves hauthority hclosed hunder hauthority' hstored =>
    ReconcilePreexecutionCancellation.execute_replay_iff hserves hauthority hclosed hunder
      hauthority' hstored,
  fun _ _ _ hauthority hclosed hunder hauthority' hstored =>
    RecordPreexecutionRejection.execute_replay_iff hauthority hclosed hunder hauthority' hstored⟩

/-- A task ledger of one Batch sealed without a task. -/
def emptySeal : SealedTaskInventory where
  batchId := "batch-1"
  projectId := "project-1"
  suiteRevisionId := "revision-1"
  ledgerVersion := 1
  highWatermark := 0
  taskCount := 0
  taskSetDigest := contentDigest "qep.preexecution-task-set.v1" (.dict [("tasks", .list [])])
  issuerId := "coordinator-1"
  tasks := []

/-- A plan of one item. -/
def sealedPlan : SealedPlannedScopeInventory where
  batchId := "batch-1"
  projectId := "project-1"
  suiteRevisionId := "revision-1"
  manifestId := "manifest-1"
  manifestDigest := Digest.zero
  shardPlanId := "plan-1"
  shardPlanVersion := 1
  shardPlanDigest := Digest.zero
  itemCount := 1
  manifestItemKeys := ["case-1"]
  issuerId := "planner-1"

/-- Nothing executes and no task was ever started. -/
def quietProof : PreexecutionProofGateway where
  scanExecutionChildren _ := .ok ⟨[], [], [], [], [], []⟩
  readSealedTaskInventory _ := .ok (some emptySeal)
  readCurrentTaskLedgerPosition _ := .ok ⟨1, 0⟩
  readTrustedTaskStops _ := .ok []
  isTrustedInventoryIssuer _ := true
  isTrustedStopIssuer _ := true
  readSealedPlannedScopeInventory _ := .ok (some sealedPlan)
  isTrustedPlannedScopeIssuer _ := true
  assembleZeroChildSnapshot inputs := lift (assembleZeroChildSnapshot inputs)

def frozenScope : BatchCancellationScope where
  kind := .frozenPlan
  preplanScopeDigest := none
  manifestDigest := some Digest.zero
  shardPlanVersion := some 1
  shardPlanDigest := some Digest.zero
  canonicalRunSetDigest := some (contentDigest "qep.authoritative-materialized-run-set.v1"
    (.dict [("batch_id", .str "batch-1"), ("run_ids", .list [])]))
  accepted := by decide

def cancelQueued : BatchCancellationIntent where
  batchId := "batch-1"
  projectId := "project-1"
  suiteRevisionId := "revision-1"
  sourceBatchVersion := 5
  idempotencyKey := "cancel-1"
  source := .userRequest
  actorId := "user-1"
  reason := "stop"
  authorizationDigest := Digest.zero
  scope := frozenScope
  recordedAt := ⟨1000000, some 0⟩
  accepted := by decide

/-- A queued Batch with its cancellation requested. -/
def requestedQueued : Batch where
  id := "batch-1"
  state := .queued
  version := 6
  cancellationIntent := some cancelQueued
  accepted := by decide

def closureAuthority : BatchClosureAuthority where
  batchId := "batch-1"
  projectId := "project-1"
  suiteRevisionId := "revision-1"
  sourceBatchVersion := 6
  authorityDigest := Digest.zero
  scope := frozenScope
  writeEpoch := 1

def validatingBatch : Batch where
  id := "batch-1"
  state := .validating
  version := 1
  accepted := by decide

def rejectionAuthority : BatchRejectionAuthority where
  batchId := "batch-1"
  projectId := "project-1"
  suiteRevisionId := "revision-1"
  sourceBatchVersion := 1
  stage := .validation
  authorityDigest := Digest.zero
  scope := Batch.cancelDraft.scope
  recordedAt := ⟨1000000, some 0⟩
  writeEpoch := 1

/-- The gateway of one stored Batch. -/
def storing (batch : Batch) : BatchPreexecutionGateway where
  requireClosureAuthority _ _ _ := .ok closureAuthority
  requireRejectionAuthority _ _ _ := .ok rejectionAuthority
  getBatchForUpdate _ := .ok batch
  publishMaterializedHandoff handoff := .ok handoff
  publishPreexecutionClosure _ := .ok ()
  publishPreexecutionRejection _ _ := .ok ()

theorem storing_serves {batch : Batch} (h : batch.id = "batch-1") :
    (storing batch).Serves "batch-1" where
  closure _ _ _ hok := by
    cases hok
    rfl
  batch _ hok := by
    cases hok
    exact h

def closeQueued : ReconcilePreexecutionCancellationCommand := ⟨"batch-1", "reconciler-1", 1⟩

def rejectValidating : RecordPreexecutionRejectionCommand where
  batchId := "batch-1"
  rejectionId := "rejection-1"
  reasonClass := .invalidInput
  reasonCode := "missing_source"
  inputDigest := Digest.zero
  phaseOwnerId := "owner-1"
  rejectionEpoch := 1

def Reconciled.closed : Reconciled → Option Batch
  | .batch b => some b
  | .handoff _ => none

/-- The queued Batch closes under its frozen plan. -/
theorem requestedQueued_closes : ∃ closed : Batch,
    ReconcilePreexecutionCancellation.execute (storing requestedQueued) quietProof closeQueued =
      .ok ⟨.batch closed, [.publishPreexecutionClosure closed]⟩ ∧
    closed.ClosedUnder frozenScope := by
  have hruns : (ReconcilePreexecutionCancellation.execute (storing requestedQueued) quietProof
      closeQueued).toOption.any (fun done => done.value.closed.isSome && !done.effects.isEmpty) =
        true := by decide +kernel
  have hauthority : (storing requestedQueued).requireClosureAuthority closeQueued.batchId
      closeQueued.reconcilerId closeQueued.closureEpoch = .ok closureAuthority := rfl
  cases hrun : ReconcilePreexecutionCancellation.execute (storing requestedQueued) quietProof
      closeQueued with
  | error failure =>
    rw [hrun] at hruns
    cases hruns
  | ok done =>
    rw [hrun] at hruns
    obtain ⟨value, effects⟩ := done
    cases value with
    | handoff handoff => cases hruns
    | batch closed =>
      obtain ⟨rfl, batch, snapshot, hbatch, hrecord⟩ :=
        (ReconcilePreexecutionCancellation.execute_batch hrun hauthority).resolve_left (by
          rintro rfl
          cases hruns)
      cases hbatch
      have hintent : requestedQueued.cancellationIntent = some cancelQueued := rfl
      exact ⟨closed, rfl, Batch.closedUnder_of_recordCancel hintent hrecord⟩

/-- The validating Batch is rejected before its plan. -/
theorem validatingBatch_rejected : ∃ (closed : Batch) (rejection : BatchRejection),
    RecordPreexecutionRejection.execute (storing validatingBatch) quietProof rejectValidating =
      .ok ⟨closed, [.publishPreexecutionRejection closed rejection]⟩ ∧
    closed.ClosedUnder rejectionAuthority.scope := by
  have hruns : (RecordPreexecutionRejection.execute (storing validatingBatch) quietProof
      rejectValidating).toOption.any (fun done => !done.effects.isEmpty &&
        done.value.preexecutionClosureBasis.any (·.scope.covers rejectionAuthority.scope)) =
          true := by decide +kernel
  have hauthority : (storing validatingBatch).requireRejectionAuthority
      rejectValidating.batchId rejectValidating.phaseOwnerId rejectValidating.rejectionEpoch =
        .ok rejectionAuthority := rfl
  cases hrun : RecordPreexecutionRejection.execute (storing validatingBatch) quietProof
      rejectValidating with
  | error failure =>
    rw [hrun] at hruns
    cases hruns
  | ok done =>
    rw [hrun] at hruns
    obtain ⟨closed, effects⟩ := done
    obtain ⟨built, rfl, -⟩ :=
      (RecordPreexecutionRejection.execute_batch hrun hauthority).resolve_left (by
        rintro rfl
        cases hruns)
    cases hbasis : closed.preexecutionClosureBasis with
    | none => simp [Except.toOption, hbasis] at hruns
    | some basis =>
      simp only [Except.toOption, Option.any_some, hbasis] at hruns
      exact ⟨closed, built, rfl, basis, hbasis, hruns⟩

theorem preexecution_replay_samples : (∃ closed : Batch,
    ReconcilePreexecutionCancellation.execute (storing requestedQueued) quietProof closeQueued =
      .ok ⟨.batch closed, [.publishPreexecutionClosure closed]⟩ ∧
    ReconcilePreexecutionCancellation.execute (storing closed) quietProof closeQueued ≠
      .ok ⟨.batch closed, []⟩) ∧
    ∃ (closed : Batch) (rejection : BatchRejection),
      RecordPreexecutionRejection.execute (storing validatingBatch) quietProof rejectValidating =
        .ok ⟨closed, [.publishPreexecutionRejection closed rejection]⟩ ∧
      RecordPreexecutionRejection.execute (storing closed) quietProof rejectValidating =
        .ok ⟨closed, []⟩ := by
  constructor
  · obtain ⟨closed, hclosed, hunder⟩ := requestedQueued_closes
    refine ⟨closed, hclosed, fun hreplay => ?_⟩
    have hkind := ((preexecution_replay_iff _ (storing closed) _ quietProof closed).1 _
      closureAuthority (storing_serves rfl) rfl hclosed hunder rfl rfl).mp hreplay
    cases hkind
  · obtain ⟨closed, rejection, hclosed, hunder⟩ := validatingBatch_rejected
    exact ⟨closed, rejection, hclosed, ((preexecution_replay_iff _ (storing closed) _ quietProof
      closed).2 _ rejectionAuthority _ rfl hclosed hunder rfl rfl).mpr rfl⟩

/-- Not every Batch closed by the handler is returned when the command is issued again. -/
theorem frozen_plan_not_replayable :
    ¬ ∀ (g g' : BatchPreexecutionGateway) (p p' : PreexecutionProofGateway)
      (command : ReconcilePreexecutionCancellationCommand) (authority : BatchClosureAuthority)
      (closed : Batch), g.Serves command.batchId →
      g.requireClosureAuthority command.batchId command.reconcilerId command.closureEpoch =
        .ok authority →
      ReconcilePreexecutionCancellation.execute g p command =
        .ok ⟨.batch closed, [.publishPreexecutionClosure closed]⟩ →
      closed.ClosedUnder authority.scope →
      g'.requireClosureAuthority command.batchId command.reconcilerId command.closureEpoch =
        .ok authority →
      g'.getBatchForUpdate command.batchId = .ok closed →
      ReconcilePreexecutionCancellation.execute g' p' command = .ok ⟨.batch closed, []⟩ := by
  intro hall
  obtain ⟨closed, hclosed, hunder⟩ := requestedQueued_closes
  have hreplay := hall _ (storing closed) _ quietProof _ closureAuthority _ (storing_serves rfl) rfl
    hclosed hunder rfl rfl
  have hkind := (ReconcilePreexecutionCancellation.execute_replay_iff (storing_serves rfl) rfl
    hclosed hunder rfl rfl).mp hreplay
  cases hkind

end QaRunner
