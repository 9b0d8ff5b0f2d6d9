import QaRunner.Application.Handoff
import QaRunner.Domain.RunClosing

/-! The guard that the stored rows of a closing attempt pass before its basis is published. -/
namespace QaRunner
open Guarded

structure AttemptRow where
  id : Str
  runId : Str
  fence : ℤ
  workerId : Str
  workerGeneration : ℤ
  specDigest : Str
  state : AttemptExecutionFact
  version : ℤ
  deriving DecidableEq

structure EvidenceRow where
  attemptId : Str
  fence : ℤ
  rootDigest : Str
  deriving DecidableEq

structure AdjudicationRow where
  id : Str
  decision : UnknownAdjudicationDecision
  adjudicationDigest : Str
  deriving DecidableEq

/-- The tables a closing basis rests on. -/
structure FactTables where
  attempts : List AttemptRow
  evidence : List EvidenceRow
  adjudications : List AdjudicationRow

variable {tables : FactTables} {basis : RunFinalizationBasis}

/-- `SELECT EXISTS`: an attempt under the values of the basis has evidence with this root. -/
def verifiedInput (tables : FactTables) (basis : RunFinalizationBasis) (root : Digest) : Bool :=
  tables.attempts.any fun attempt => tables.evidence.any fun evidence =>
    evidence.attemptId = attempt.id ∧ some attempt.id = basis.finalAttemptId ∧
      attempt.runId = basis.runId ∧ some attempt.version = basis.finalAttemptVersion ∧
      some attempt.fence = basis.finalAttemptFence ∧ some attempt.workerId = basis.workerId ∧
      some attempt.workerGeneration = basis.workerGeneration ∧
      attempt.specDigest = digestHex basis.executionSpecDigest ∧
      evidence.fence = attempt.fence ∧ evidence.rootDigest = digestHex root

def requireVerifiedTerminalInput (tables : FactTables) (basis : RunFinalizationBasis) :
    Except Problem Unit :=
  whenSome basis.finalAttemptId fun _ => do
    let root ← need basis.evidenceRootDigest
      (.authorityStateConflict "run_finalization_evidence_binding_invalid")
    raiseIf (verifiedInput tables basis root = false)
      (.authorityStateConflict "run_finalization_evidence_binding_invalid")

theorem requireVerifiedTerminalInput_eq_ok :
    requireVerifiedTerminalInput tables basis = .ok () ↔ ∀ id, basis.finalAttemptId = some id →
      ∃ root, basis.evidenceRootDigest = some root ∧ verifiedInput tables basis root := by
  simp only [requireVerifiedTerminalInput, whenSome_eq_ok, bind_eq_ok, need_eq_ok, raiseIf_eq_ok,
    Bool.not_eq_false]

namespace RunFinalizationBasis

/-- The attempt row the basis names. -/
def attemptRow (basis : RunFinalizationBasis) : Option AttemptRow := do
  let id ← basis.finalAttemptId
  let fence ← basis.finalAttemptFence
  let workerId ← basis.workerId
  let workerGeneration ← basis.workerGeneration
  let state ← basis.finalAttemptState
  let version ← basis.finalAttemptVersion
  return {
    id := id
    runId := basis.runId
    fence := fence
    workerId := workerId
    workerGeneration := workerGeneration
    specDigest := digestHex basis.executionSpecDigest
    state := state
    version := version }

/-- The evidence row the basis names, when it has an evidence root. -/
def evidenceRow (basis : RunFinalizationBasis) : Option EvidenceRow := do
  let attemptId ← basis.finalAttemptId
  let fence ← basis.finalAttemptFence
  let root ← basis.evidenceRootDigest
  return { attemptId := attemptId, fence := fence, rootDigest := digestHex root }

/-- The adjudication rows the decisions of the basis name. -/
def adjudicationRows (basis : RunFinalizationBasis) : List AdjudicationRow :=
  basis.decisionChain.filterMap fun ref => match ref.decisionResult with
    | .unknownAdjudication result => some {
        id := ref.decisionId
        decision := result.decision
        adjudicationDigest := digestHex result.adjudicationDigest }
    | _ => none

end RunFinalizationBasis

/-- What is stored about the closing attempt is what the basis names. -/
structure RowsOf (tables : FactTables) (basis : RunFinalizationBasis) : Prop where
  attempt : tables.attempts.filter (fun row => some row.id = basis.finalAttemptId) =
    basis.attemptRow.toList
  evidence : tables.evidence.filter (fun row => some row.attemptId = basis.finalAttemptId) =
    basis.evidenceRow.toList
  adjudications : ∀ row ∈ basis.adjudicationRows, row ∈ tables.adjudications

/-- The tables with those rows only. -/
def tablesOf (basis : RunFinalizationBasis) : FactTables :=
  ⟨basis.attemptRow.toList, basis.evidenceRow.toList, basis.adjudicationRows⟩

theorem rowsOf_tablesOf : RowsOf (tablesOf basis) basis := by
  refine ⟨List.filter_eq_self.mpr fun row hrow => ?_, List.filter_eq_self.mpr fun row hrow => ?_,
    fun row hrow => hrow⟩
  · have hrow : basis.attemptRow = some row := by simpa [tablesOf] using hrow
    simp only [RunFinalizationBasis.attemptRow, Option.bind_eq_bind, Option.bind_eq_some_iff,
      Option.pure_def, Option.some.injEq] at hrow
    obtain ⟨id, hid, _, -, _, -, _, -, _, -, _, -, rfl⟩ := hrow
    simp [hid]
  · have hrow : basis.evidenceRow = some row := by simpa [tablesOf] using hrow
    simp only [RunFinalizationBasis.evidenceRow, Option.bind_eq_bind, Option.bind_eq_some_iff,
      Option.pure_def, Option.some.injEq] at hrow
    obtain ⟨id, hid, _, -, _, -, rfl⟩ := hrow
    simp [hid]

/-- The row the basis names joins the evidence it names. -/
theorem verified_of_rows (hrows : RowsOf tables basis)
    (hk : basis.terminalInputKind ≠ .prestartCancel) {root : Digest}
    (hroot : basis.evidenceRootDigest = some root) : verifiedInput tables basis root := by
  have h := RunFinalizationBasis.attemptFields_accepted hk
  simp only [RunFinalizationBasis.Fields.requireAttemptFields, then_eq_ok, each_eq_ok,
    List.forall_mem_cons, requireSomeString_eq_ok, requireSomePositiveInt_eq_ok,
    requireSomeNonnegativeInt_eq_ok, invalidIf_eq_ok, Option.isNone_iff_eq_none] at h
  obtain ⟨-, ⟨-, ⟨id, hid, -⟩, ⟨worker, hworker, -⟩, -⟩, ⟨-, -, ⟨fence, hfence, -⟩,
    ⟨generation, hgeneration, -⟩, -⟩, ⟨version, hversion, -⟩, hstate, -⟩ := h
  obtain ⟨state, hstate⟩ := Option.ne_none_iff_exists'.mp hstate
  have hattempt := hrows.attempt
  have hevidence := hrows.evidence
  simp only [RunFinalizationBasis.attemptRow, RunFinalizationBasis.evidenceRow, hid, hworker,
    hfence, hgeneration, hversion, hstate, hroot, Option.bind_eq_bind, Option.bind_some,
    Option.pure_def, Option.toList_some] at hattempt hevidence
  have hattemptRow := List.mem_filter.mp (hattempt ▸ List.mem_singleton.mpr rfl)
  have hevidenceRow := List.mem_filter.mp (hevidence ▸ List.mem_singleton.mpr rfl)
  simp only [verifiedInput, List.any_eq_true, decide_eq_true_iff]
  exact ⟨_, hattemptRow.1, _, hevidenceRow.1, by simp [hid, hworker, hfence, hgeneration, hversion]⟩

/-- The publication of a Run that has executed is refused exactly when an adjudication closed it
as lost. -/
theorem publishable_iff (hk : basis.terminalInputKind ≠ .prestartCancel)
    (hrows : RowsOf tables basis) : requireVerifiedTerminalInput tables basis = .ok () ↔
      ¬ basis.ClosesAsInfraFailure := by
  rw [requireVerifiedTerminalInput_eq_ok, ← RunFinalizationBasis.no_evidence_iff hk]
  constructor
  · intro h hnone
    have hattempt := RunFinalizationBasis.attemptFields_accepted hk
    simp only [RunFinalizationBasis.Fields.requireAttemptFields, then_eq_ok, each_eq_ok,
      List.forall_mem_cons, requireSomeString_eq_ok] at hattempt
    obtain ⟨-, ⟨-, ⟨id, hid, -⟩, -⟩, -⟩ := hattempt
    obtain ⟨root, hroot, -⟩ := h id hid
    cases hnone.symm.trans hroot
  · intro hsome id hid
    obtain ⟨root, hroot⟩ := Option.ne_none_iff_exists'.mp hsome
    exact ⟨root, hroot, verified_of_rows hrows hk hroot⟩

theorem publishable_closed :
    let basis := closingBasis (Or.inl rfl) Digest.zero Digest.zero Digest.zero
    basis.terminalInputKind ≠ .prestartCancel ∧ RowsOf (tablesOf basis) basis ∧
      (requireVerifiedTerminalInput (tablesOf basis) basis = .ok () ↔
        ¬ basis.ClosesAsInfraFailure) :=
  ⟨by decide, rowsOf_tablesOf, publishable_iff (by decide) rowsOf_tablesOf⟩

/-- An adjudication that found the attempt lost. -/
def lostRef : RunFinalizationDecisionRef where
  sequence := 2
  decisionKind := .unknownAdjudication
  decisionSchema := "qep.unknown-adjudication.v1"
  decisionId := "adjudication-1"
  decisionVersion := 1
  decisionDigest := Digest.zero
  decisionResult := .unknownAdjudication {
    adjudicationDigest := Digest.zero
    decision := .markInfraFailedNoRetry }
  accepted := by decide

/-- A Run closed as that adjudication demands, without evidence. -/
def lostBasis : RunFinalizationBasis where
  toFields := { closing retriedItem Digest.zero Digest.zero Digest.zero with
    finalAttemptState := some .attemptUnknown
    evidenceRootDigest := none
    unknownObservationDigest := some Digest.zero
    adjudicationChainDigest := some Digest.zero
    decisionChain := [contractRule, lostRef]
    outcome := .infraFailed
    terminalInputKind := .unknownAdjudication }
  accepted := by decide

/-- The Run was adjudicated as lost, and cannot be closed as such. -/
theorem lost_refused : lostBasis.terminalInputKind ≠ .prestartCancel ∧
    RowsOf (tablesOf lostBasis) lostBasis ∧
      requireVerifiedTerminalInput (tablesOf lostBasis) lostBasis =
        .error (.authorityStateConflict "run_finalization_evidence_binding_invalid") :=
  ⟨by decide, rowsOf_tablesOf, rfl⟩

end QaRunner
