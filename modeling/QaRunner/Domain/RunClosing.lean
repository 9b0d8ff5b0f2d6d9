import QaRunner.Domain.RunFinalizationBasis

/-! What an accepted Run basis proves about the way its Run was closed. -/
namespace QaRunner
open Guarded

namespace RunFinalizationBasis
variable {b : RunFinalizationBasis}

/-- A contract rule of the chain repeats the stored cancellation intent and stop proof. -/
def CarriesStop (b : RunFinalizationBasis) : Prop :=
  b.cancellationIntentDigest.isSome ∧ b.cancellationStopDigest.isSome ∧
    ∃ ref ∈ b.decisionChain, ref.decisionKind = .contractRule ∧ ∃ rule,
      ref.decisionResult = .contractRule rule ∧
        rule.cancellationIntentDigest = b.cancellationIntentDigest ∧
        rule.cancellationStopDigest = b.cancellationStopDigest

/-- The cancellation rests on an intent, and on a prestart closure or on a stop proof. -/
def CancellationProven (b : RunFinalizationBasis) : Prop :=
  b.cancellationIntentDigest.isSome ∧
    (b.terminalInputKind = .prestartCancel ∧ b.prestartClosureDigest.isSome ∨ b.CarriesStop)

theorem inputKind_accepted (b : RunFinalizationBasis) : b.validateInputKind = .ok () := by
  have h := b.accepted
  simp only [Fields.postInit, then_eq_ok] at h
  exact h.2.2.2.2.2.2

theorem decisions_accepted (b : RunFinalizationBasis) : b.validateDecisions = .ok () := by
  have h := b.accepted
  simp only [Fields.postInit, then_eq_ok] at h
  exact h.2.2.2.2.2.1

theorem validateCancelRule_eq_ok {b : Fields} {u : Unit} : b.validateCancelRule = .ok u ↔
    ∃ ref ∈ b.decisionChain, ref.decisionKind = .contractRule ∧ ∃ rule,
      ref.decisionResult = .contractRule rule ∧
        rule.cancellationIntentDigest = b.cancellationIntentDigest ∧
        rule.cancellationStopDigest = b.cancellationStopDigest := by
  simp only [Fields.validateCancelRule, invalidIf_eq_ok, List.all_eq_true, List.mem_map,
    List.mem_filter, decide_eq_true_iff, not_forall]
  constructor
  · rintro ⟨_, ⟨ref, ⟨href, hkind⟩, rfl⟩, hrule⟩
    refine ⟨ref, href, hkind, ?_⟩
    cases hresult : ref.decisionResult with
    | contractRule rule => exact ⟨rule, rfl, by simpa [hresult] using hrule⟩
    | retryDecision => simp [hresult] at hrule
    | unknownAdjudication => simp [hresult] at hrule
    | duplicateRiskAcceptance => simp [hresult] at hrule
  · rintro ⟨ref, href, hkind, rule, hresult, hsame⟩
    exact ⟨_, ⟨ref, ⟨href, hkind⟩, rfl⟩, by simpa [hresult] using hsame⟩

theorem proven_of_prestart (hk : b.terminalInputKind = .prestartCancel) :
    b.CancellationProven := by
  have h := b.inputKind_accepted
  simp only [Fields.validateInputKind, hk, Fields.validatePrestartCancel, then_eq_ok,
    requireSomeDigest_eq_ok] at h
  exact ⟨h.2.1, Or.inl ⟨hk, h.2.2.1⟩⟩

theorem proven_of_cancellation_evidence (hk : b.terminalInputKind = .verifiedCancellationEvidence) :
    b.CancellationProven := by
  have h := b.inputKind_accepted
  simp only [Fields.validateInputKind, hk, then_eq_ok, each_eq_ok, List.forall_mem_cons,
    requireSomeDigest_eq_ok, validateCancelRule_eq_ok] at h
  obtain ⟨-, -, ⟨-, hintent, hstop, -⟩, -, hrule⟩ := h
  exact ⟨hintent, Or.inr ⟨hintent, hstop, hrule⟩⟩

/-- An adjudication that found the attempt completed. -/
def completedRef : RunFinalizationDecisionRef where
  sequence := 2
  decisionKind := .unknownAdjudication
  decisionSchema := "qep.unknown-adjudication.v1"
  decisionId := "adjudication-1"
  decisionVersion := 1
  decisionDigest := Digest.zero
  decisionResult := .unknownAdjudication {
    adjudicationDigest := Digest.zero
    decision := .markCompletedFromVerifiedEvidence
    evidenceRootDigest := some Digest.zero }
  accepted := by decide

/-- A cancelled Run without a trace of a cancellation. -/
def unproven (kind : TerminalInputKind) : Fields :=
  { closing retriedItem Digest.zero Digest.zero Digest.zero with
    finalAttemptState := some (if kind = .unknownAdjudication then .attemptUnknown else .cancelled)
    unknownObservationDigest := some Digest.zero
    adjudicationChainDigest := some Digest.zero
    decisionChain := [contractRule, completedRef]
    outcome := .cancelled
    terminalInputKind := kind }

theorem unproven_accepted : (unproven .verifiedEvidence).postInit = .ok () ∧
    (unproven .unknownAdjudication).postInit = .ok () := by decide

/-- The proof of a cancellation is demanded under two input kinds; under the two others it is
there only if the caller put it there. -/
theorem cancellation_proven_iff (b : RunFinalizationBasis) (kind : TerminalInputKind) :
    ((b.outcome = .cancelled → b.CancellationProven) ↔
      (b.outcome = .cancelled → b.terminalInputKind = .prestartCancel ∨
        b.terminalInputKind = .verifiedCancellationEvidence ∨ b.CarriesStop)) ∧
    ((∀ b' : RunFinalizationBasis, b'.terminalInputKind = kind → b'.outcome = .cancelled →
      b'.CancellationProven) ↔ kind = .prestartCancel ∨ kind = .verifiedCancellationEvidence) := by
  constructor
  · refine imp_congr_right fun _ => ⟨fun h => ?_, fun h => ?_⟩
    · rcases h.2 with ⟨hk, -⟩ | hstop
      · exact Or.inl hk
      · exact Or.inr (Or.inr hstop)
    · rcases h with hk | hk | hstop
      · exact proven_of_prestart hk
      · exact proven_of_cancellation_evidence hk
      · exact ⟨hstop.1, Or.inr hstop⟩
  · cases kind with
    | verifiedEvidence =>
      refine ⟨fun h => ?_, fun h => by simp at h⟩
      exact absurd (h ⟨_, unproven_accepted.1⟩ rfl rfl).1 (by decide)
    | unknownAdjudication =>
      refine ⟨fun h => ?_, fun h => by simp at h⟩
      exact absurd (h ⟨_, unproven_accepted.2⟩ rfl rfl).1 (by decide)
    | prestartCancel => exact ⟨fun _ => Or.inl rfl, fun _ b' hk _ => proven_of_prestart hk⟩
    | verifiedCancellationEvidence =>
      exact ⟨fun _ => Or.inr rfl, fun _ b' hk _ => proven_of_cancellation_evidence hk⟩

/-- A Run closed as cancelled on verified evidence, with no cancellation behind it. -/
theorem cancelled_without_intent : ∃ b : RunFinalizationBasis,
    b.terminalInputKind = .verifiedEvidence ∧ b.outcome = .cancelled ∧
      b.cancellationIntentDigest = none ∧ ¬ b.CancellationProven :=
  ⟨⟨_, unproven_accepted.1⟩, rfl, rfl, rfl, fun h => absurd h.1 (by decide)⟩

/-- The adjudications of the chain. -/
def adjudications (b : Fields) : List DecisionResult :=
  (b.decisionChain.filter (·.decisionKind = .unknownAdjudication)).map (·.decisionResult)

/-- One adjudication closes the unknown attempt: as an infrastructure failure, without evidence, or
as completed, on the evidence it names. -/
theorem validateUnknownAdjudication_eq_ok {b : Fields} {u : Unit} :
    b.validateUnknownAdjudication = .ok u ↔ b.finalAttemptState = some .attemptUnknown ∧
      b.unknownObservationDigest.isSome ∧ b.adjudicationChainDigest.isSome ∧
      ∃ result, adjudications b = [.unknownAdjudication result] ∧
        (result.decision = .markInfraFailedNoRetry ∧ b.outcome = .infraFailed ∧
            b.evidenceRootDigest = none ∨
          result.decision = .markCompletedFromVerifiedEvidence ∧ b.evidenceRootDigest.isSome ∧
            result.evidenceRootDigest = b.evidenceRootDigest) := by
  simp only [Fields.validateUnknownAdjudication, then_eq_ok, invalidIf_eq_ok, ne_eq, not_not,
    requireSomeDigest_eq_ok, adjudications]
  refine and_congr_right fun _ => and_congr_right fun _ => and_congr_right fun _ => ?_
  generalize (b.decisionChain.filter (·.decisionKind = .unknownAdjudication)).map
    (·.decisionResult) = decisions
  rcases decisions with _ | ⟨decision, _ | ⟨_, _⟩⟩
  · simp [invalidIf_eq_ok]
  · cases decision with
    | contractRule => simp [DecisionResult.assertAdjudication, error_bind]
    | retryDecision => simp [DecisionResult.assertAdjudication, error_bind]
    | duplicateRiskAcceptance => simp [DecisionResult.assertAdjudication, error_bind]
    | unknownAdjudication result =>
      simp only [DecisionResult.assertAdjudication, ok_bind, List.cons.injEq,
        DecisionResult.unknownAdjudication.injEq, and_true, exists_eq_left']
      cases hdecision : result.decision <;>
        simp [invalidIf_eq_ok, then_eq_ok, requireSomeDigest_eq_ok]
  · simp [invalidIf_eq_ok]

/-- The Run is closed by an adjudication that found its last attempt lost. -/
def ClosesAsInfraFailure (b : RunFinalizationBasis) : Prop :=
  b.terminalInputKind = .unknownAdjudication ∧ ∃ ref ∈ b.decisionChain, ∃ result,
    ref.decisionKind = .unknownAdjudication ∧
      ref.decisionResult = .unknownAdjudication result ∧ result.decision = .markInfraFailedNoRetry

/-- Every input but a prestart cancel names the attempt that closes the Run. -/
theorem attemptFields_accepted (hk : b.terminalInputKind ≠ .prestartCancel) :
    b.requireAttemptFields = .ok () := by
  have h := b.inputKind_accepted
  unfold Fields.validateInputKind at h
  cases hkind : b.terminalInputKind with
  | prestartCancel => exact absurd hkind hk
  | verifiedCancellationEvidence => exact (then_eq_ok.mp (by simpa only [hkind] using h)).1
  | verifiedEvidence => exact (then_eq_ok.mp (by simpa only [hkind] using h)).1
  | unknownAdjudication => exact (then_eq_ok.mp (by simpa only [hkind] using h)).1

/-- A Run without a closing attempt names no state of one. -/
theorem finalAttemptState_of_none (hnone : b.finalAttemptId = none) :
    b.finalAttemptState = none := by
  by_cases hk : b.terminalInputKind = .prestartCancel
  · have h := b.inputKind_accepted
    simp only [Fields.validateInputKind, hk, Fields.validatePrestartCancel, then_eq_ok,
      forbidPresent_eq_ok, List.forall_mem_cons, Option.isSome_eq_false_iff,
      Option.isNone_iff_eq_none] at h
    exact h.1.2.2.2.2.2.2.1
  · have h := attemptFields_accepted hk
    simp only [Fields.requireAttemptFields, then_eq_ok, each_eq_ok, List.forall_mem_cons,
      requireSomeString_eq_ok] at h
    obtain ⟨-, ⟨-, ⟨id, hid, -⟩, -⟩, -⟩ := h
    cases hnone.symm.trans hid

/-- A Run with an attempt is closed without evidence only as lost. -/
theorem no_evidence_iff (hk : b.terminalInputKind ≠ .prestartCancel) :
    b.evidenceRootDigest = none ↔ b.ClosesAsInfraFailure := by
  have h := b.inputKind_accepted
  unfold Fields.validateInputKind at h
  cases hkind : b.terminalInputKind with
  | prestartCancel => exact absurd hkind hk
  | verifiedCancellationEvidence =>
    simp only [hkind, then_eq_ok, each_eq_ok, List.forall_mem_cons, requireSomeDigest_eq_ok] at h
    have hsome := h.2.2.1.1
    simp [ClosesAsInfraFailure, hkind, Option.isSome_iff_ne_none.mp hsome]
  | verifiedEvidence =>
    simp only [hkind, then_eq_ok, requireSomeDigest_eq_ok] at h
    have hsome := h.2.2.1
    simp [ClosesAsInfraFailure, hkind, Option.isSome_iff_ne_none.mp hsome]
  | unknownAdjudication =>
    simp only [hkind, then_eq_ok, validateUnknownAdjudication_eq_ok] at h
    obtain ⟨-, -, -, -, result, hadjudications, hdecision⟩ := h
    have hmem : ∀ decision, decision ∈ adjudications b.toFields ↔ ∃ ref ∈ b.decisionChain,
        ref.decisionKind = .unknownAdjudication ∧ ref.decisionResult = decision := by
      simp [adjudications, and_assoc]
    constructor
    · intro hnone
      have hinfra : result.decision = .markInfraFailedNoRetry := by
        rcases hdecision with ⟨hinfra, -⟩ | ⟨-, hsome, -⟩
        · exact hinfra
        · simp [hnone] at hsome
      obtain ⟨ref, href, hrefKind, hresult⟩ :=
        (hmem _).mp (hadjudications ▸ List.mem_singleton.mpr rfl)
      exact ⟨hkind, ref, href, result, hrefKind, hresult, hinfra⟩
    · rintro ⟨-, ref, href, result', hrefKind, hresult, hinfra⟩
      have hsame := (hmem (.unknownAdjudication result')).mpr ⟨ref, href, hrefKind, hresult⟩
      rw [hadjudications, List.mem_singleton] at hsame
      obtain rfl := DecisionResult.unknownAdjudication.inj hsame
      rcases hdecision with ⟨-, -, hnone⟩ | ⟨hcompleted, -⟩
      · exact hnone
      · cases hinfra.symm.trans hcompleted

end RunFinalizationBasis
end QaRunner
