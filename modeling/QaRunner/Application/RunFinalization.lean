import QaRunner.Application.RunClosedHandoff
import QaRunner.Domain.BatchFinalization

/-! The command that closes a Run, and what its gates leave for the Batch to refuse. -/
namespace QaRunner
open Guarded

structure FinalizeRunCommand.Fields where
  candidateBasis : RunFinalizationBasis
  resolutionSet : RunItemResolutionSet
  expectedRunVersion : ℤ
  expectedAttemptVersion : Option ℤ
  deriving DecidableEq

namespace FinalizeRunCommand.Fields

/-- The basis disagrees with the set it is to be published with. -/
def basisMismatch (c : Fields) : Result Bool :=
  anyOf [differs c.candidateBasis.runId (.ok c.resolutionSet.runId),
    differs c.candidateBasis.batchId (.ok c.resolutionSet.batchId),
    differs c.candidateBasis.sourceRunVersion (.ok c.resolutionSet.sourceRunVersion),
    differs c.candidateBasis.itemResolutionSetDigest c.resolutionSet.resolutionSetDigest,
    differs c.candidateBasis.originalResolutionSetDigest
      c.resolutionSet.originalResolutionSetDigest,
    differs c.candidateBasis.effectiveResolutionSetDigest
      c.resolutionSet.effectiveResolutionSetDigest,
    differs c.candidateBasis.outcome (.ok c.resolutionSet.auditOutcome)]

def postInit (c : Fields) : Result Unit := do
  requireNonnegativeInt "finalize_run_command" "expected_run_version" c.expectedRunVersion
  whenSome c.expectedAttemptVersion fun version =>
    requireNonnegativeInt "finalize_run_command" "expected_attempt_version" version
  let mismatch ← c.basisMismatch
  invalidIf (mismatch = true) "finalize_run_command" "resolution_set" "basis_mismatch"
  invalidIf (c.candidateBasis.finalAttemptId.isNone ≠ c.expectedAttemptVersion.isNone)
    "finalize_run_command" "expected_attempt_version" "attempt_mismatch"

theorem basisMismatch_eq_ok {c : Fields} : c.basisMismatch = .ok false ↔
    c.candidateBasis.runId = c.resolutionSet.runId ∧
      c.candidateBasis.batchId = c.resolutionSet.batchId ∧
      c.candidateBasis.sourceRunVersion = c.resolutionSet.sourceRunVersion ∧
      c.resolutionSet.resolutionSetDigest = .ok c.candidateBasis.itemResolutionSetDigest ∧
      c.resolutionSet.originalResolutionSetDigest =
        .ok c.candidateBasis.originalResolutionSetDigest ∧
      c.resolutionSet.effectiveResolutionSetDigest =
        .ok c.candidateBasis.effectiveResolutionSetDigest ∧
      c.candidateBasis.outcome = c.resolutionSet.auditOutcome := by
  simp only [basisMismatch, anyOf_eq_ok_false, List.forall_mem_cons, differs_eq_ok_false,
    Except.ok.injEq, eq_comm (b := c.candidateBasis.runId),
    eq_comm (b := c.candidateBasis.batchId), eq_comm (b := c.candidateBasis.sourceRunVersion),
    eq_comm (b := c.candidateBasis.outcome)]
  simp

theorem postInit_eq_ok {c : Fields} {u : Unit} : c.postInit = .ok u ↔
    0 ≤ c.expectedRunVersion ∧ (∀ version, c.expectedAttemptVersion = some version → 0 ≤ version) ∧
      c.basisMismatch = .ok false ∧
      c.candidateBasis.finalAttemptId.isNone = c.expectedAttemptVersion.isNone := by
  simp only [postInit, bind_eq_ok, exists_unit, requireNonnegativeInt_eq_ok, whenSome_eq_ok,
    invalidIf_eq_ok, Bool.not_eq_true, ne_eq, not_not]
  refine and_congr_right fun _ => and_congr_right fun _ => ⟨?_, ?_⟩
  · rintro ⟨_, hmismatch, rfl, hattempt⟩
    exact ⟨hmismatch, hattempt⟩
  · rintro ⟨hmismatch, hattempt⟩
    exact ⟨false, hmismatch, rfl, hattempt⟩

end FinalizeRunCommand.Fields

/-- A basis, the resolution set it closes and the versions it is published over. -/
structure FinalizeRunCommand extends FinalizeRunCommand.Fields where
  accepted : toFields.postInit = .ok ()
  deriving DecidableEq

variable {basis : RunFinalizationBasis} {set : RunItemResolutionSet} {authority : Digest}
  {writeEpoch : ℤ} {handoff : RunClosedHandoff}

/-- The Batch takes every item of the closed Run. -/
def Consumable (basis : RunFinalizationBasis) (set : RunItemResolutionSet) : Prop :=
  ∀ entry ∈ set.entries, ∃ resolved,
    BatchItemResolution.fromRunResolution basis set entry = .ok resolved

/-- The frozen plan and the histories of the basis are those of its set. -/
structure HistoriesAgree (basis : RunFinalizationBasis) (set : RunItemResolutionSet) : Prop where
  manifest : basis.manifestDigest = set.manifestDigest
  shardPlan : basis.shardPlanDigest = set.shardPlanDigest
  attempts : basis.attemptChainDigest =
    if basis.terminalInputKind = .prestartCancel then none else some set.attemptChainDigest
  retries : basis.retryChainDigest = set.retryChainDigest
  adjudications : basis.adjudicationChainDigest = set.adjudicationChainDigest

theorem histories_of_consumable (h : Consumable basis set) : HistoriesAgree basis set := by
  obtain ⟨entry, hentry⟩ := List.exists_mem_of_ne_nil _ set.entries_ne_nil
  obtain ⟨_, hresolved⟩ := h entry hentry
  have hof := (then_eq_ok.mp hresolved).1
  obtain ⟨⟨-, -, -, hmanifest, hplan, -⟩, -, -, -, -, -, hattempts, hretries, hadjudications⟩ :=
    BatchItemResolution.requireBasisOf_eq_ok.mp hof
  exact ⟨hmanifest, hplan, hattempts, hretries, hadjudications⟩

/-- A Run that both earlier gates let close is consumed exactly when the digests that neither of
them compares agree. -/
theorem consumable_iff (command : FinalizeRunCommand)
    (hbuilt : buildRunClosedHandoff command.candidateBasis command.resolutionSet authority
      writeEpoch = .ok handoff) :
    Consumable command.candidateBasis command.resolutionSet ↔
      HistoriesAgree command.candidateBasis command.resolutionSet := by
  refine ⟨histories_of_consumable, fun h entry hentry => ?_⟩
  obtain ⟨hmismatch, digest, hdigest⟩ := buildRunClosedHandoff_eq_ok hbuilt
  obtain ⟨hrun, hbatch, hversion, hs, ho, he, hitems, hcount, houtcome⟩ :=
    handoffMismatch_eq_ok.mp hmismatch
  refine BatchItemResolution.fromRunResolution_of_basis hentry ?_ hdigest
  exact BatchItemResolution.requireBasisOf_eq_ok.mpr
    ⟨⟨hbatch, hrun, hversion, h.manifest, h.shardPlan, hitems⟩, hs, ho, he, hcount, houtcome,
      h.attempts, h.retries, h.adjudications⟩

section
variable {s o e : Digest}

/-- A basis of the failed Run that claims some retry history. -/
def claiming (retries : Option Digest) (s o e : Digest) : RunFinalizationBasis where
  toFields := { closing failedItem s o e with retryChainDigest := retries }
  accepted := closing_accepted (s := s) (o := o) (e := e) (Or.inr (Or.inl rfl))

theorem claimingDigest_ok (retries : Option Digest) :
    ∃ d, (claiming retries s o e).basisDigest = .ok d := by
  have hchain : ∃ c, (claiming retries s o e).decisionChainDigest = .ok c :=
    canonicalDigest_of_valid rfl
  obtain ⟨c, hc⟩ := hchain
  simp only [RunFinalizationBasis.basisDigest, hc, ok_bind]
  cases retries with
  | none => exact canonicalDigest_of_valid rfl
  | some _ => exact canonicalDigest_of_valid rfl

theorem exists_claiming (retries : Option Digest) : ∃ command : FinalizeRunCommand, ∃ s o e,
    command.candidateBasis = claiming retries s o e ∧
      command.resolutionSet = oneRunSet failedItem ∧ command.expectedRunVersion = 4 ∧
      command.expectedAttemptVersion = some 3 := by
  have hr : Sampled failedItem := Or.inr (Or.inl rfl)
  obtain ⟨s, hs⟩ := setDigest_ok hr
  obtain ⟨o, ho⟩ := originalDigest_ok hr
  obtain ⟨e, he⟩ := effectiveDigest_ok hr
  have houtcome : RunOutcome.testFailed = (oneRunSet failedItem).auditOutcome := by decide
  have hcommand : FinalizeRunCommand.Fields.postInit {
      candidateBasis := claiming retries s o e
      resolutionSet := oneRunSet failedItem
      expectedRunVersion := 4
      expectedAttemptVersion := some 3 } = .ok () := by
    refine FinalizeRunCommand.Fields.postInit_eq_ok.mpr ⟨by simp, by simp, ?_, rfl⟩
    exact FinalizeRunCommand.Fields.basisMismatch_eq_ok.mpr
      ⟨rfl, rfl, rfl, hs, ho, he, houtcome⟩
  exact ⟨⟨_, hcommand⟩, s, o, e, rfl, rfl, rfl, rfl⟩

/-- It is handed over under any authority. -/
theorem claiming_handoff {retries : Option Digest} {command : FinalizeRunCommand}
    (hbasis : command.candidateBasis = claiming retries s o e)
    (hset : command.resolutionSet = oneRunSet failedItem) (authority : Digest) :
    ∃ handoff, buildRunClosedHandoff command.candidateBasis command.resolutionSet authority 1 =
      .ok handoff := by
  obtain ⟨-, -, hmismatch, -⟩ := FinalizeRunCommand.Fields.postInit_eq_ok.mp command.accepted
  obtain ⟨-, -, -, hs, ho, he, houtcome⟩ :=
    FinalizeRunCommand.Fields.basisMismatch_eq_ok.mp hmismatch
  rw [hbasis, hset] at hs ho he houtcome ⊢
  obtain ⟨digest, hdigest⟩ := claimingDigest_ok (s := s) (o := o) (e := e) retries
  refine buildRunClosedHandoff_ok ?_ hdigest (by decide) (canonicalDigest_of_valid rfl) ?_
  · exact handoffMismatch_eq_ok.mpr ⟨rfl, rfl, rfl, hs, ho, he, rfl, rfl, houtcome⟩
  · have hbinding : ∃ d, canonicalDigest "qep.run-closed-handoff.v1"
        (closedBinding (claiming retries s o e) digest authority 1).payload = .ok d := by
      cases retries with
      | none => exact canonicalDigest_of_valid rfl
      | some _ => exact canonicalDigest_of_valid rfl
    obtain ⟨d, hd⟩ := hbinding
    simp only [RunClosedBinding.payloadDigest, hd, ok_bind]
    exact canonicalDigest_of_valid rfl

/-- Both gates take it, whatever the history. -/
theorem claiming_closed (retries : Option Digest) : ∃ command : FinalizeRunCommand,
    command.candidateBasis.retryChainDigest = retries ∧
      command.resolutionSet = oneRunSet failedItem ∧ ∃ handoff, buildRunClosedHandoff
        command.candidateBasis command.resolutionSet Digest.zero 1 = .ok handoff := by
  obtain ⟨command, s, o, e, hbasis, hset, -, -⟩ := exists_claiming retries
  exact ⟨command, hbasis ▸ rfl, hset, claiming_handoff hbasis hset Digest.zero⟩

end

theorem consumable_failed : ∃ command : FinalizeRunCommand, ∃ handoff,
    buildRunClosedHandoff command.candidateBasis command.resolutionSet Digest.zero 1 =
      .ok handoff ∧
      (Consumable command.candidateBasis command.resolutionSet ↔
        HistoriesAgree command.candidateBasis command.resolutionSet) := by
  obtain ⟨command, -, -, handoff, hbuilt⟩ := claiming_closed none
  exact ⟨command, handoff, hbuilt, consumable_iff command hbuilt⟩

/-- A Run closed under a retry history its items do not have is never consumed. -/
theorem closed_not_consumed : ∃ command : FinalizeRunCommand, ∃ handoff,
    buildRunClosedHandoff command.candidateBasis command.resolutionSet Digest.zero 1 =
      .ok handoff ∧ ¬ Consumable command.candidateBasis command.resolutionSet := by
  obtain ⟨command, hretries, hset, handoff, hbuilt⟩ := claiming_closed (some Digest.zero)
  refine ⟨command, handoff, hbuilt, fun h => ?_⟩
  have hagree := (histories_of_consumable h).retries
  rw [hretries, hset] at hagree
  cases hagree

end QaRunner
