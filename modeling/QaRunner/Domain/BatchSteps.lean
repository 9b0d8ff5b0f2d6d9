import QaRunner.Domain.Batch
import QaRunner.Lib.Aggregate

/-! The commands of a Batch as one step function, what a successful step does, and what the
stored closure basis of an accepted Batch says about it. -/
namespace QaRunner
open Guarded

theorem BatchPreexecutionClosureBasis.new_eq_ok {f : BatchPreexecutionClosureBasis.Fields}
    {b : BatchPreexecutionClosureBasis} :
    BatchPreexecutionClosureBasis.new f = .ok b ↔ b.toFields = f := by
  simp only [BatchPreexecutionClosureBasis.new, construct_eq_ok]
  constructor
  · rintro ⟨_, rfl⟩
    rfl
  · rintro rfl
    exact ⟨b.accepted, rfl⟩

theorem BatchPreexecutionClosureBasis.terminal_ok (basis : BatchPreexecutionClosureBasis) :
    basis.requireTerminal = .ok () := by
  have h := basis.accepted
  simp only [BatchPreexecutionClosureBasis.Fields.postInit, then_eq_ok] at h
  exact h.2.2.2.1

theorem buildPreexecutionBasis_eq_ok {phase outcome : BatchState}
    {kind : BatchPreexecutionTerminalKind} {rejectionDigest intentDigest : Option Digest}
    {snapshot : BatchPreexecutionSnapshot} {basis : BatchPreexecutionClosureBasis} :
    buildPreexecutionBasis phase kind rejectionDigest intentDigest snapshot outcome = .ok basis ↔
      ∃ itemDigests, collect snapshot.scopeItems (·.digest) = .ok itemDigests ∧ basis.toFields =
        { batchId := snapshot.batchId
          sourceBatchVersion := snapshot.sourceBatchVersion
          sourcePhase := phase
          terminalKind := kind
          rejectionFactDigest := rejectionDigest
          batchCancellationIntentDigest := intentDigest
          scopeKind := snapshot.scopeKind
          submissionDigest := snapshot.submissionDigest
          preplanScopeDigest := snapshot.preplanScopeDigest
          manifestDigest := snapshot.manifestDigest
          shardPlanVersion := snapshot.shardPlanVersion
          shardPlanDigest := snapshot.shardPlanDigest
          canonicalRunSetDigest := snapshot.canonicalRunSetDigest
          materializedRunAbsenceDigest := snapshot.materializedRunAbsenceDigest
          executionAbsenceSnapshotDigest := snapshot.executionAbsenceSnapshotDigest
          taskStopFactDigests := snapshot.taskStopFactDigests
          preexecutionScopeItemFactDigests := itemDigests
          itemCoverageProofDigest := snapshot.itemCoverageProofDigest
          batchOutcome := outcome } := by
  simp only [buildPreexecutionBasis, bind_eq_ok, BatchPreexecutionClosureBasis.new_eq_ok]

namespace Batch

variable {b b' : Batch} {v : ℤ}

theorem new_eq_ok {f : Fields} : Batch.new f = .ok b ↔ b.toFields = f := by
  simp only [Batch.new, construct_eq_ok]
  constructor
  · rintro ⟨_, rfl⟩
    rfl
  · rintro rfl
    exact ⟨b.accepted, rfl⟩

theorem closure_ok (b : Batch) : b.validateClosure = .ok () := by
  have h := b.accepted
  simp only [Fields.postInit, then_eq_ok] at h
  exact h.2.2.2.2.2

/-- Without a basis there is no rejection, and an intent is one version behind the Batch. -/
theorem open_facts (hbasis : b.preexecutionClosureBasis = none) :
    b.rejectionFact = none ∧ ∀ intent, b.cancellationIntent = some intent →
      b.state.prestartCancel = true ∧ intent.sourceBatchVersion + 1 = b.version := by
  have h := b.closure_ok
  simp only [Fields.validateClosure, hbasis, then_eq_ok, invalidIf_eq_ok, whenSome_eq_ok,
    Fields.requirePendingCancelBinding, not_or, ne_eq, not_not, Bool.not_eq_false] at h
  obtain ⟨hrejection, hpending⟩ := h
  refine ⟨Option.not_isSome_iff_eq_none.mp hrejection, fun intent hintent => ?_⟩
  obtain ⟨⟨-, hprestart, hversion⟩, -⟩ := hpending intent hintent
  exact ⟨hprestart, hversion⟩

theorem rejection_facts {basis : BatchPreexecutionClosureBasis}
    (hbasis : b.preexecutionClosureBasis = some basis) (hkind : basis.terminalKind = .rejection) :
    b.state = .rejected ∧ b.cancellationIntent = none ∧ ∃ rejection digest,
      b.rejectionFact = some rejection ∧ rejection.digest = .ok digest ∧
        basis.rejectionFactDigest = some digest := by
  have h := b.closure_ok
  have hterminal := basis.terminal_ok
  simp only [BatchPreexecutionClosureBasis.Fields.requireTerminal, hkind, then_eq_ok,
    invalidIf_eq_ok, ne_eq, not_not] at hterminal
  simp only [Fields.validateClosure, hbasis, hkind, Fields.requireRejectionBinding, bind_eq_ok,
    exists_unit, invalidIf_eq_ok, need_eq_ok, raiseIf_eq_ok, not_or, ne_eq, not_not,
    Option.not_isSome_iff_eq_none] at h
  obtain ⟨⟨-, hstate, -⟩, rejection, hrejection, ⟨hintent, -⟩, digest, hdigest, hbound, -⟩ := h
  exact ⟨hstate.symm.trans hterminal.2, hintent, rejection, digest, hrejection, hdigest, hbound⟩

theorem cancellation_facts {basis : BatchPreexecutionClosureBasis}
    (hbasis : b.preexecutionClosureBasis = some basis)
    (hkind : basis.terminalKind = .prestartCancel) :
    b.state = .cancelled ∧ b.rejectionFact = none ∧ ∃ intent digest,
      b.cancellationIntent = some intent ∧ intent.digest = .ok digest ∧
        basis.batchCancellationIntentDigest = some digest ∧
        basis.scope.covers intent.scope = true := by
  have h := b.closure_ok
  have hterminal := basis.terminal_ok
  simp only [BatchPreexecutionClosureBasis.Fields.requireTerminal, hkind, then_eq_ok,
    invalidIf_eq_ok, ne_eq, not_not] at hterminal
  simp only [Fields.validateClosure, hbasis, hkind, Fields.requireCancellationBinding, bind_eq_ok,
    exists_unit, invalidIf_eq_ok, need_eq_ok, raiseIf_eq_ok, not_or, ne_eq, not_not,
    Option.not_isSome_iff_eq_none, requireCancelBasisBinding, Bool.not_eq_false] at h
  obtain ⟨⟨-, hstate, -⟩, intent, hintent, ⟨hrejection, -⟩, digest, hdigest, hbound, hscope⟩ := h
  exact ⟨hstate.symm.trans hterminal.2, hrejection, intent, digest, hintent, hdigest, hbound,
    hscope⟩

/-- A stored intent is one to cancel this Batch. -/
theorem intent_batch {intent : BatchCancellationIntent}
    (hintent : b.cancellationIntent = some intent) : intent.batchId = b.id := by
  have h := b.closure_ok
  cases hbasis : b.preexecutionClosureBasis with
  | none =>
    simp only [Fields.validateClosure, hbasis, then_eq_ok, whenSome_eq_ok,
      Fields.requirePendingCancelBinding, invalidIf_eq_ok, not_or, ne_eq, not_not] at h
    exact (h.2 intent hintent).1.1
  | some basis =>
    cases hkind : basis.terminalKind with
    | rejection =>
      rw [(rejection_facts hbasis hkind).2.1] at hintent
      cases hintent
    | prestartCancel =>
      simp only [Fields.validateClosure, hbasis, hkind, Fields.requireCancellationBinding,
        bind_eq_ok, exists_unit, need_eq_ok, raiseIf_eq_ok, not_or, ne_eq, not_not] at h
      obtain ⟨-, stored, hstored, ⟨-, hbatch, -⟩, -⟩ := h
      cases hstored.symm.trans hintent
      exact hbatch

/-- The state-changing operations of a Batch with their arguments. -/
inductive Command where
  | transition (target : BatchState) (expectedVersion : ℤ)
  | requestCancel (intent : BatchCancellationIntent) (expectedVersion : ℤ)
  | rejectPreexecution (rejection : BatchRejection) (snapshot : BatchPreexecutionSnapshot)
    (expectedVersion : ℤ)
  | finalizeUnmaterializedCancel (snapshot : BatchPreexecutionSnapshot) (expectedVersion : ℤ)

def exec (b : Batch) : Command → Result Batch
  | .transition target v => b.transition target v
  | .requestCancel intent v => b.requestCancel intent v
  | .rejectPreexecution rejection snapshot v => b.rejectPreexecution rejection snapshot v
  | .finalizeUnmaterializedCancel snapshot v => b.finalizeUnmaterializedCancel snapshot v

def Command.expectedVersion : Command → ℤ
  | .transition _ v | .requestCancel _ v | .rejectPreexecution _ _ v
  | .finalizeUnmaterializedCancel _ v => v

/-- What a command that changes a Batch can do to it. -/
inductive Change (b b' : Batch) : Prop
  | advance (target : BatchState) (hnone : b.cancellationIntent = none)
    (hallowed : target ∈ b.state.allowedTransitions)
    (hnext : b'.toFields = { b.toFields with
      state := target
      version := b.version + 1 })
  | cancel (intent : BatchCancellationIntent) (hnone : b.cancellationIntent = none)
    (hprestart : b.state.prestartCancel = true) (hversion : intent.sourceBatchVersion = b.version)
    (hnext : b'.toFields = { b.toFields with
      version := b.version + 1
      cancellationIntent := some intent })
  | reject (rejection : BatchRejection) (basis : BatchPreexecutionClosureBasis)
    (hnone : b.cancellationIntent = none) (hstage : b.state.rejectionStage.isSome)
    (hnext : b'.toFields = { b.toFields with
      state := .rejected
      version := b.version + 1
      rejectionFact := some rejection
      preexecutionClosureBasis := some basis })
  | close (basis : BatchPreexecutionClosureBasis) (hintent : b.cancellationIntent.isSome)
    (hprestart : b.state.prestartCancel = true)
    (hnext : b'.toFields = { b.toFields with
      state := .cancelled
      version := b.version + 1
      preexecutionClosureBasis := some basis })

theorem transition_eq_ok {target : BatchState} :
    b.transition target v = .ok b' ↔
      (0 ≤ v ∧ v = b.version) ∧ b.cancellationIntent = none ∧
        target ∈ b.state.allowedTransitions ∧ b'.toFields = { b.toFields with
          state := target
          version := b.version + 1 } := by
  simp only [transition, ensureVersion, then_eq_ok, ensureExpectedVersion_eq_ok, raiseIf_eq_ok,
    Option.not_isSome_iff_eq_none, not_not, new_eq_ok]

theorem replayClosure_eq_ok {outcome : BatchState} {scope key : Str}
    {stored candidate : BatchPreexecutionClosureBasis} :
    b.replayClosure outcome scope key stored candidate = .ok b' ↔ ∃ digest,
      stored.digest = .ok digest ∧ candidate.digest = .ok digest ∧ b.state = outcome ∧ b' = b := by
  simp only [replayClosure, bind_eq_ok, exists_unit, raiseIf_eq_ok, not_or, ne_eq, not_not,
    pure_eq_ok]
  constructor
  · rintro ⟨digest, hstored, received, hreceived, ⟨hstate, rfl⟩, rfl⟩
    exact ⟨digest, hstored, hreceived, hstate, rfl⟩
  · rintro ⟨digest, hstored, hreceived, hstate, rfl⟩
    exact ⟨digest, hstored, digest, hreceived, ⟨hstate, rfl⟩, rfl⟩

/-- A replayed cancellation request carries the stored request; a new one is recorded once. -/
theorem requestCancel_eq_ok {intent : BatchCancellationIntent} :
    b.requestCancel intent v = .ok b' ↔
      (∃ stored digest, b.cancellationIntent = some stored ∧
        stored.idempotencyKey = intent.idempotencyKey ∧ stored.requestDigest = .ok digest ∧
        intent.requestDigest = .ok digest ∧ b' = b) ∨
      b.cancellationIntent = none ∧ b.state.terminal = false ∧
        (0 ≤ v ∧ v = b.version) ∧ b.state.prestartCancel = true ∧
        (intent.batchId = b.id ∧ intent.sourceBatchVersion = b.version) ∧
        intent.scope.kind = expectedCancelScopeKind b.state ∧ b'.toFields = { b.toFields with
          version := b.version + 1
          cancellationIntent := some intent } := by
  unfold requestCancel
  cases hstored : b.cancellationIntent with
  | none =>
    simp only [then_eq_ok, raiseIf_eq_ok, Bool.not_eq_true, ensureVersion,
      ensureExpectedVersion_eq_ok, Bool.not_eq_false, invalidIf_eq_ok, not_or, ne_eq, not_not,
      new_eq_ok, reduceCtorEq, false_and, exists_false, false_or, true_and]
  | some stored =>
    simp only [Option.some.injEq, reduceCtorEq, false_and, or_false, exists_and_left,
      exists_eq_left']
    split
    · next hkey =>
      simp only [bind_eq_ok, exists_unit, raiseIf_eq_ok, ne_eq, not_not, pure_eq_ok, hkey, true_and]
      constructor
      · rintro ⟨digest, hdigest, _, hreceived, rfl, rfl⟩
        exact ⟨digest, hdigest, hreceived, rfl⟩
      · rintro ⟨digest, hdigest, hreceived, rfl⟩
        exact ⟨digest, hdigest, digest, hreceived, rfl, rfl⟩
    · next hkey => simp only [throw_eq_ok, hkey, false_and]

theorem recordRejection_eq_ok {rejection : BatchRejection} {snapshot : BatchPreexecutionSnapshot} :
    b.recordRejection rejection snapshot v = .ok b' ↔
      b.state.terminal = false ∧ (0 ≤ v ∧ v = b.version) ∧
      b.cancellationIntent = none ∧ b.state.rejectionStage = some rejection.stage ∧
      (rejection.batchId = b.id ∧ snapshot.batchId = b.id ∧
        rejection.sourceBatchVersion = b.version ∧ snapshot.sourceBatchVersion = b.version) ∧
      (snapshot.scopeKind =
        if b.state = .awaitingAdmission then .plannedUnmaterialized else .prePlan) ∧
      ∃ digest basis, rejection.digest = .ok digest ∧
        requireSnapshotCommandBinding snapshot .rejection digest = .ok () ∧
        buildPreexecutionBasis b.state .rejection (some digest) none snapshot .rejected =
          .ok basis ∧
        b'.toFields = { b.toFields with
          state := .rejected
          version := b.version + 1
          rejectionFact := some rejection
          preexecutionClosureBasis := some basis } := by
  simp only [recordRejection, bind_eq_ok, exists_unit, raiseIf_eq_ok, Bool.not_eq_true,
    ensureVersion, ensureExpectedVersion_eq_ok, Option.isSome_eq_false_iff,
    Option.isNone_iff_eq_none, need_eq_ok,
    invalidIf_eq_ok, ne_eq, not_or, not_not, new_eq_ok]
  constructor
  · rintro ⟨hlive, hversion, hnone, stage, hstage, rfl, hsource, hkind, digest, hdigest, hbinding,
      basis, hbuild, hnext⟩
    exact ⟨hlive, hversion, hnone, hstage, hsource, hkind, digest, basis, hdigest, hbinding,
      hbuild, hnext⟩
  · rintro ⟨hlive, hversion, hnone, hstage, hsource, hkind, digest, basis, hdigest, hbinding,
      hbuild, hnext⟩
    exact ⟨hlive, hversion, hnone, _, hstage, rfl, hsource, hkind, digest, hdigest, hbinding,
      basis, hbuild, hnext⟩

theorem replayRejection_eq_ok {stored rejection : BatchRejection}
    {snapshot : BatchPreexecutionSnapshot} :
    b.replayRejection stored rejection snapshot = .ok b' ↔ ∃ digest storedBasis candidate,
      stored.digest = .ok digest ∧ rejection.digest = .ok digest ∧
      requireSnapshotCommandBinding snapshot .rejection digest = .ok () ∧
      b.preexecutionClosureBasis = some storedBasis ∧
      buildPreexecutionBasis storedBasis.sourcePhase .rejection (some digest) none snapshot
        .rejected = .ok candidate ∧
      ∃ basisDigest, storedBasis.digest = .ok basisDigest ∧ candidate.digest = .ok basisDigest ∧
        b.state = .rejected ∧ b' = b := by
  simp only [replayRejection, bind_eq_ok, exists_unit, raiseIf_eq_ok, ne_eq, not_not, need_eq_ok,
    replayClosure_eq_ok]
  constructor
  · rintro ⟨digest, hstored, _, hreceived, rfl, hbinding, storedBasis, hbasis, candidate, hbuild,
      hreplay⟩
    exact ⟨digest, storedBasis, candidate, hstored, hreceived, hbinding, hbasis, hbuild, hreplay⟩
  · rintro ⟨digest, storedBasis, candidate, hstored, hreceived, hbinding, hbasis, hbuild, hreplay⟩
    exact ⟨digest, hstored, digest, hreceived, rfl, hbinding, storedBasis, hbasis, candidate,
      hbuild, hreplay⟩

theorem rejectPreexecution_cases {rejection : BatchRejection}
    {snapshot : BatchPreexecutionSnapshot}
    (h : b.rejectPreexecution rejection snapshot v = .ok b') :
    b' = b ∨ b.recordRejection rejection snapshot v = .ok b' := by
  unfold rejectPreexecution at h
  split at h
  · split at h
    · obtain ⟨-, -, -, -, -, -, -, -, -, -, -, -, rfl⟩ := replayRejection_eq_ok.mp h
      exact Or.inl rfl
    · exact Or.inr h
  · exact Or.inr h

theorem recordCancel_eq_ok {snapshot : BatchPreexecutionSnapshot} :
    b.recordCancel snapshot v = .ok b' ↔
      b.state.terminal = false ∧ (0 ≤ v ∧ v = b.version) ∧
      b.state.prestartCancel = true ∧ ∃ intent, b.cancellationIntent = some intent ∧
      (snapshot.batchId = b.id ∧ snapshot.sourceBatchVersion = b.version) ∧
      snapshot.scope.covers intent.scope = true ∧
      ∃ digest basis, intent.digest = .ok digest ∧
        requireSnapshotCommandBinding snapshot .prestartCancel digest = .ok () ∧
        buildPreexecutionBasis b.state .prestartCancel none (some digest) snapshot .cancelled =
          .ok basis ∧
        b'.toFields = { b.toFields with
          state := .cancelled
          version := b.version + 1
          preexecutionClosureBasis := some basis } := by
  simp only [recordCancel, bind_eq_ok, exists_unit, raiseIf_eq_ok, Bool.not_eq_true, ensureVersion,
    ensureExpectedVersion_eq_ok, Bool.not_eq_false, need_eq_ok, invalidIf_eq_ok, ne_eq, not_or,
    not_not, requireCancelScopeBinding, new_eq_ok]
  constructor
  · rintro ⟨hlive, hversion, hprestart, intent, hintent, hsource, hscope, digest, hdigest, hbinding,
      basis, hbuild, hnext⟩
    exact ⟨hlive, hversion, hprestart, intent, hintent, hsource, hscope, digest, basis, hdigest,
      hbinding, hbuild, hnext⟩
  · rintro ⟨hlive, hversion, hprestart, intent, hintent, hsource, hscope, digest, basis, hdigest,
      hbinding, hbuild, hnext⟩
    exact ⟨hlive, hversion, hprestart, intent, hintent, hsource, hscope, digest, hdigest, hbinding,
      basis, hbuild, hnext⟩

theorem replayCancel_eq_ok {intent : BatchCancellationIntent}
    {storedBasis : BatchPreexecutionClosureBasis} {snapshot : BatchPreexecutionSnapshot} :
    b.replayCancel intent storedBasis snapshot = .ok b' ↔ ∃ digest candidate,
      intent.digest = .ok digest ∧
      requireSnapshotCommandBinding snapshot .prestartCancel digest = .ok () ∧
      buildPreexecutionBasis storedBasis.sourcePhase .prestartCancel none (some digest) snapshot
        .cancelled = .ok candidate ∧
      ∃ basisDigest, storedBasis.digest = .ok basisDigest ∧ candidate.digest = .ok basisDigest ∧
        b.state = .cancelled ∧ b' = b := by
  simp only [replayCancel, bind_eq_ok, exists_unit, replayClosure_eq_ok]
  constructor
  · rintro ⟨digest, hdigest, hbinding, candidate, hbuild, hreplay⟩
    exact ⟨digest, candidate, hdigest, hbinding, hbuild, hreplay⟩
  · rintro ⟨digest, candidate, hdigest, hbinding, hbuild, hreplay⟩
    exact ⟨digest, hdigest, hbinding, candidate, hbuild, hreplay⟩

theorem finalizeUnmaterializedCancel_cases {snapshot : BatchPreexecutionSnapshot}
    (h : b.finalizeUnmaterializedCancel snapshot v = .ok b') :
    b' = b ∨ b.recordCancel snapshot v = .ok b' := by
  unfold finalizeUnmaterializedCancel at h
  split at h
  · split at h
    · obtain ⟨-, -, -, -, -, -, -, -, -, rfl⟩ := replayCancel_eq_ok.mp h
      exact Or.inl rfl
    · exact Or.inr h
  · exact Or.inr h

/-- A successful command returns the Batch it was given, or was prepared against its version and
changes it in one of the known ways. -/
theorem exec_cases {c : Command} (h : b.exec c = .ok b') :
    b' = b ∨ c.expectedVersion = b.version ∧ b.Change b' := by
  cases c with
  | transition target v =>
    obtain ⟨⟨-, hversion⟩, hnone, hallowed, hnext⟩ := transition_eq_ok.mp h
    exact Or.inr ⟨hversion, .advance target hnone hallowed hnext⟩
  | requestCancel intent v =>
    rcases requestCancel_eq_ok.mp h with ⟨-, -, -, -, -, -, hsame⟩ | hnew
    · exact Or.inl hsame
    · obtain ⟨hnone, -, ⟨-, hversion⟩, hprestart, ⟨-, hsource⟩, -, hnext⟩ := hnew
      exact Or.inr ⟨hversion, .cancel intent hnone hprestart hsource hnext⟩
  | rejectPreexecution rejection snapshot v =>
    rcases rejectPreexecution_cases h with hsame | hnew
    · exact Or.inl hsame
    · obtain ⟨-, ⟨-, hversion⟩, hnone, hstage, -, -, -, basis, -, -, -, hnext⟩ :=
        recordRejection_eq_ok.mp hnew
      exact Or.inr ⟨hversion, .reject rejection basis hnone (by rw [hstage]; rfl) hnext⟩
  | finalizeUnmaterializedCancel snapshot v =>
    rcases finalizeUnmaterializedCancel_cases h with hsame | hnew
    · exact Or.inl hsame
    · obtain ⟨-, ⟨-, hversion⟩, hprestart, intent, hintent, -, -, -, basis, -, -, -, hnext⟩ :=
        recordCancel_eq_ok.mp hnew
      exact Or.inr ⟨hversion, .close basis (by rw [hintent]; rfl) hprestart hnext⟩

end Batch
end QaRunner
