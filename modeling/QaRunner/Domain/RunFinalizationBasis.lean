import QaRunner.Domain.RunFinalization

/-! The basis a Run is closed on: its decision chain, the terminal input it rests on, and the
digests that bind it to a resolution set. -/
namespace QaRunner
open Guarded

inductive TerminalInputKind where
  | verifiedEvidence
  | verifiedCancellationEvidence
  | prestartCancel
  | unknownAdjudication
  deriving DecidableEq, Repr

def TerminalInputKind.value : TerminalInputKind → String
  | .verifiedEvidence => "verified_evidence"
  | .verifiedCancellationEvidence => "verified_cancellation_evidence"
  | .prestartCancel => "prestart_cancel"
  | .unknownAdjudication => "unknown_adjudication"

inductive FinalizationDecisionKind where
  | contractRule
  | suiteRetry
  | platformRetry
  | unknownAdjudication
  | duplicateRiskAcceptance
  deriving DecidableEq, Repr

def FinalizationDecisionKind.value : FinalizationDecisionKind → String
  | .contractRule => "contract_rule"
  | .suiteRetry => "suite_retry"
  | .platformRetry => "platform_retry"
  | .unknownAdjudication => "unknown_adjudication"
  | .duplicateRiskAcceptance => "duplicate_risk_acceptance"

structure ContractRuleResultRef where
  outcome : RunOutcome
  cancellationIntentDigest : Option Digest := none
  cancellationStopDigest : Option Digest := none
  prestartClosureDigest : Option Digest := none
  deriving DecidableEq

def ContractRuleResultRef.canonicalPayload (r : ContractRuleResultRef) : Json :=
  .dict [("outcome", .str r.outcome.value),
    ("cancellation_intent_digest", optionalDigestValue r.cancellationIntentDigest),
    ("cancellation_stop_digest", optionalDigestValue r.cancellationStopDigest),
    ("prestart_closure_digest", optionalDigestValue r.prestartClosureDigest)]

structure RetryDecisionResultRef.Fields where
  retryIntentDigest : Digest
  retryDecisionDigest : Digest
  retryAuthorityDigest : Digest
  targetAttemptId : Str
  targetAttemptNo : ℤ
  targetAttemptFence : ℤ
  targetItemSetDigest : Digest
  deriving DecidableEq

def RetryDecisionResultRef.Fields.postInit (r : RetryDecisionResultRef.Fields) : Result Unit := do
  requireString "retry_decision_result_ref" "target_attempt_id" r.targetAttemptId
  requirePositiveInt "retry_decision_result_ref" "target_attempt_no" r.targetAttemptNo
  requirePositiveInt "retry_decision_result_ref" "target_attempt_fence" r.targetAttemptFence

/-- The attempt a retry decision created. -/
structure RetryDecisionResultRef extends RetryDecisionResultRef.Fields where
  accepted : toFields.postInit = .ok ()
  deriving DecidableEq

def RetryDecisionResultRef.canonicalPayload (r : RetryDecisionResultRef) : Json :=
  .dict [("retry_intent_digest", .str r.retryIntentDigest.value),
    ("retry_decision_digest", .str r.retryDecisionDigest.value),
    ("retry_authority_digest", .str r.retryAuthorityDigest.value),
    ("target_attempt_id", .str r.targetAttemptId), ("target_attempt_no", .int r.targetAttemptNo),
    ("target_attempt_fence", .int r.targetAttemptFence),
    ("target_item_set_digest", .str r.targetItemSetDigest.value)]

structure UnknownAdjudicationResultRef where
  adjudicationDigest : Digest
  decision : UnknownAdjudicationDecision
  evidenceRootDigest : Option Digest := none
  proofDigest : Option Digest := none
  riskAcceptanceDigest : Option Digest := none
  deriving DecidableEq

def UnknownAdjudicationResultRef.canonicalPayload (r : UnknownAdjudicationResultRef) : Json :=
  .dict [("adjudication_digest", .str r.adjudicationDigest.value),
    ("decision", .str r.decision.value),
    ("evidence_root_digest", optionalDigestValue r.evidenceRootDigest),
    ("proof_digest", optionalDigestValue r.proofDigest),
    ("risk_acceptance_digest", optionalDigestValue r.riskAcceptanceDigest)]

structure DuplicateRiskAcceptanceResultRef where
  riskAcceptanceDigest : Digest
  deriving DecidableEq

def DuplicateRiskAcceptanceResultRef.canonicalPayload (r : DuplicateRiskAcceptanceResultRef) :
    Json := .dict [("risk_acceptance_digest", .str r.riskAcceptanceDigest.value)]

inductive DecisionResult where
  | contractRule (result : ContractRuleResultRef)
  | retryDecision (result : RetryDecisionResultRef)
  | unknownAdjudication (result : UnknownAdjudicationResultRef)
  | duplicateRiskAcceptance (result : DuplicateRiskAcceptanceResultRef)
  deriving DecidableEq

namespace DecisionResult

def canonicalPayload : DecisionResult → Json
  | contractRule r => r.canonicalPayload
  | retryDecision r => r.canonicalPayload
  | unknownAdjudication r => r.canonicalPayload
  | duplicateRiskAcceptance r => r.canonicalPayload

/-- The result type a decision kind calls for. -/
def isExpected : FinalizationDecisionKind → DecisionResult → Bool
  | .contractRule, contractRule _ => true
  | .suiteRetry, retryDecision _ => true
  | .platformRetry, retryDecision _ => true
  | .unknownAdjudication, unknownAdjudication _ => true
  | .duplicateRiskAcceptance, duplicateRiskAcceptance _ => true
  | _, _ => false

/-- The result of a retry decision; any other result fails the assertion. -/
def assertRetry : DecisionResult → Result RetryDecisionResultRef
  | retryDecision r => .ok r
  | _ => .error (.crash .assertionError)

def assertAdjudication : DecisionResult → Result UnknownAdjudicationResultRef
  | unknownAdjudication r => .ok r
  | _ => .error (.crash .assertionError)

end DecisionResult

structure RunFinalizationDecisionRef.Fields where
  sequence : ℤ
  decisionKind : FinalizationDecisionKind
  decisionSchema : Str
  decisionId : Str
  decisionVersion : ℤ
  decisionDigest : Digest
  decisionResult : DecisionResult
  sourceAttemptId : Option Str := none
  sourceAttemptNo : Option ℤ := none
  sourceAttemptFence : Option ℤ := none
  sourceItemSetDigest : Option Digest := none
  deriving DecidableEq

namespace RunFinalizationDecisionRef.Fields

/-- A retry result repeats the digest of the decision it belongs to. -/
def requireRetryDigest (d : Fields) (entity : String) : Result Unit :=
  match d.decisionResult with
  | .retryDecision r =>
    invalidIf (r.retryDecisionDigest ≠ d.decisionDigest) entity "decision_result"
      "decision_digest_mismatch"
  | _ => .ok ()

def postInit (d : Fields) : Result Unit := do
  requirePositiveInt "run_finalization_decision_ref" "sequence" d.sequence
  requireString "run_finalization_decision_ref" "decision_schema" d.decisionSchema
  requireString "run_finalization_decision_ref" "decision_id" d.decisionId
  requirePositiveInt "run_finalization_decision_ref" "decision_version" d.decisionVersion
  invalidIf (d.decisionResult.isExpected d.decisionKind = false) "run_finalization_decision_ref"
    "decision_result" "kind_mismatch"
  d.requireRetryDigest "run_finalization_decision_ref"
  let present := [d.sourceAttemptId.isSome, d.sourceAttemptNo.isSome, d.sourceAttemptFence.isSome,
    d.sourceItemSetDigest.isSome]
  invalidIf (present.any id ∧ ¬ present.all id) "run_finalization_decision_ref" "source_attempt"
    "all_or_none"
  whenever (present.all id) do
    requireSomeString "run_finalization_decision_ref" "source_attempt_id" d.sourceAttemptId
    requireSomePositiveInt "run_finalization_decision_ref" "source_attempt_no" d.sourceAttemptNo
    requireSomePositiveInt "run_finalization_decision_ref" "source_attempt_fence"
      d.sourceAttemptFence
    requireSomeDigest "run_finalization_decision_ref" "source_item_set_digest"
      d.sourceItemSetDigest

end RunFinalizationDecisionRef.Fields

/-- One decision of a finalization, with the attempt it was taken about. -/
structure RunFinalizationDecisionRef extends RunFinalizationDecisionRef.Fields where
  accepted : toFields.postInit = .ok ()
  deriving DecidableEq

namespace RunFinalizationDecisionRef

def canonicalPayload (d : RunFinalizationDecisionRef) : Json :=
  .dict [("sequence", .int d.sequence), ("decision_kind", .str d.decisionKind.value),
    ("decision_schema", .str d.decisionSchema), ("decision_id", .str d.decisionId),
    ("decision_version", .int d.decisionVersion), ("decision_digest", .str d.decisionDigest.value),
    ("source_attempt_id", optionalString d.sourceAttemptId),
    ("source_attempt_no", optionalInt d.sourceAttemptNo),
    ("source_attempt_fence", optionalInt d.sourceAttemptFence),
    ("source_item_set_digest", optionalDigestValue d.sourceItemSetDigest),
    ("decision_result", d.decisionResult.canonicalPayload)]

/-- The decision was taken about the attempt an earlier retry created. -/
def continuesFrom (d : RunFinalizationDecisionRef) (previous : RetryDecisionResultRef) : Bool :=
  d.sourceAttemptId = some previous.targetAttemptId ∧
    d.sourceAttemptNo = some previous.targetAttemptNo ∧
    d.sourceAttemptFence = some previous.targetAttemptFence ∧
    d.sourceItemSetDigest = some previous.targetItemSetDigest

end RunFinalizationDecisionRef

structure RunFinalizationBasis.Fields where
  runId : Str
  batchId : Str
  sourceRunVersion : ℤ
  manifestDigest : Digest
  shardPlanDigest : Digest
  runItemSetDigest : Digest
  executionSpecDigest : Digest
  originalAttemptId : Option Str
  originalAttemptFence : Option ℤ
  finalAttemptId : Option Str
  finalAttemptNo : Option ℤ
  finalAttemptFence : Option ℤ
  finalAttemptVersion : Option ℤ
  finalAttemptState : Option AttemptExecutionFact
  workerId : Option Str
  workerGeneration : Option ℤ
  attemptChainDigest : Option Digest
  evidenceRootDigest : Option Digest
  unknownObservationDigest : Option Digest
  adjudicationChainDigest : Option Digest
  retryChainDigest : Option Digest
  itemResolutionSetDigest : Digest
  originalResolutionSetDigest : Digest
  effectiveResolutionSetDigest : Digest
  itemCount : ℤ
  cancellationIntentDigest : Option Digest
  cancellationStopDigest : Option Digest
  prestartClosureDigest : Option Digest
  terminalRuleSchema : Str
  terminalRuleVersion : ℤ
  terminalRuleDigest : Digest
  decisionChain : List RunFinalizationDecisionRef
  disposition : RunDisposition
  outcome : RunOutcome
  terminalInputKind : TerminalInputKind
  deriving DecidableEq

namespace RunFinalizationBasis.Fields

/-- Walk the retry decisions, each about the attempt the one before it created. -/
def validateRetryChain (previous : Option RetryDecisionResultRef) :
    List RunFinalizationDecisionRef → Result (Option RetryDecisionResultRef)
  | [] => .ok previous
  | ref :: refs => do
    let result ← ref.decisionResult.assertRetry
    invalidIf ref.sourceAttemptId.isNone "run_finalization_basis" "decision_chain"
      "retry_source_required"
    let sourceNo ← need ref.sourceAttemptNo (.crash .typeError)
    let sourceFence ← need ref.sourceAttemptFence (.crash .typeError)
    invalidIf (result.targetAttemptNo ≠ sourceNo + 1 ∨ result.targetAttemptFence ≤ sourceFence ∨
      some result.targetItemSetDigest ≠ ref.sourceItemSetDigest) "run_finalization_basis"
      "decision_chain" "retry_target_discontinuous"
    whenSome previous fun p => invalidIf (ref.continuesFrom p = false) "run_finalization_basis"
      "decision_chain" "retry_source_discontinuous"
    validateRetryChain (some result) refs

def validateRetryDecisions (b : Fields) : Result Unit := do
  let retries := b.decisionChain.filter fun ref =>
    ref.decisionKind = .suiteRetry ∨ ref.decisionKind = .platformRetry
  let previous ← validateRetryChain none retries
  whenSome retries.head? fun first => do
    let last ← need previous (.crash .assertionError)
    invalidIf (first.sourceAttemptId ≠ b.originalAttemptId ∨
      first.sourceAttemptFence ≠ b.originalAttemptFence ∨
      some last.targetAttemptId ≠ b.finalAttemptId ∨
      some last.targetAttemptNo ≠ b.finalAttemptNo ∨
      some last.targetAttemptFence ≠ b.finalAttemptFence ∨
      last.targetItemSetDigest ≠ b.runItemSetDigest) "run_finalization_basis" "decision_chain"
      "retry_basis_mismatch"

def validateDecisions (b : Fields) : Result Unit := do
  invalidIf (b.decisionChain.map (·.sequence) ≠
      (List.range b.decisionChain.length).map fun i => (i : ℤ) + 1) "run_finalization_basis"
    "decision_chain" "non_contiguous"
  invalidIf (¬ ∃ ref ∈ b.decisionChain, ref.decisionKind = .contractRule) "run_finalization_basis"
    "decision_chain" "contract_rule_required"
  b.validateRetryDecisions

def validateCancelRule (b : Fields) : Result Unit :=
  let rules := (b.decisionChain.filter (·.decisionKind = .contractRule)).map (·.decisionResult)
  invalidIf (rules.all fun rule => match rule with
    | .contractRule r => ¬ (r.cancellationIntentDigest = b.cancellationIntentDigest ∧
        r.cancellationStopDigest = b.cancellationStopDigest)
    | _ => true) "run_finalization_basis" "decision_chain" "cancellation_rule_mismatch"

/-- The closing adjudication of an unknown attempt, which never permits another retry. -/
def validateUnknownAdjudication (b : Fields) : Result Unit := do
  invalidIf (b.finalAttemptState ≠ some .attemptUnknown) "run_finalization_basis"
    "final_attempt_state" "unknown_required"
  requireSomeDigest "run_finalization_basis" "unknown_observation_digest"
    b.unknownObservationDigest
  requireSomeDigest "run_finalization_basis" "adjudication_chain_digest" b.adjudicationChainDigest
  match (b.decisionChain.filter (·.decisionKind = .unknownAdjudication)).map
    (·.decisionResult) with
  | [decision] => do
    let result ← decision.assertAdjudication
    match result.decision with
    | .markInfraFailedNoRetry =>
      invalidIf (b.outcome ≠ .infraFailed ∨ b.evidenceRootDigest.isSome) "run_finalization_basis"
        "outcome" "infra_adjudication_matrix"
    | .markCompletedFromVerifiedEvidence => do
      requireSomeDigest "run_finalization_basis" "evidence_root_digest" b.evidenceRootDigest
      invalidIf (result.evidenceRootDigest ≠ b.evidenceRootDigest) "run_finalization_basis"
        "evidence_root_digest" "adjudication_mismatch"
    | _ => invalidIf True "run_finalization_basis" "decision_result" "retry_cannot_close_unknown"
  | _ => invalidIf True "run_finalization_basis" "decision_chain" "unknown_adjudication_required"

def validatePrestartCancel (b : Fields) : Result Unit := do
  forbidPresent "run_finalization_basis" [("original_attempt_id", b.originalAttemptId.isSome),
    ("original_attempt_fence", b.originalAttemptFence.isSome),
    ("final_attempt_id", b.finalAttemptId.isSome), ("final_attempt_no", b.finalAttemptNo.isSome),
    ("final_attempt_fence", b.finalAttemptFence.isSome),
    ("final_attempt_version", b.finalAttemptVersion.isSome),
    ("final_attempt_state", b.finalAttemptState.isSome), ("worker_id", b.workerId.isSome),
    ("worker_generation", b.workerGeneration.isSome),
    ("attempt_chain_digest", b.attemptChainDigest.isSome),
    ("evidence_root_digest", b.evidenceRootDigest.isSome)]
  requireSomeDigest "run_finalization_basis" "cancellation_intent_digest"
    b.cancellationIntentDigest
  requireSomeDigest "run_finalization_basis" "prestart_closure_digest" b.prestartClosureDigest
  invalidIf b.cancellationStopDigest.isSome "run_finalization_basis" "cancellation_stop_digest"
    "forbidden"
  invalidIf (b.outcome ≠ .cancelled) "run_finalization_basis" "outcome"
    "prestart_requires_cancelled"

/-- Every other input closes a Run that has executed. -/
def requireAttemptFields (b : Fields) : Result Unit := do
  requireSomeDigest "run_finalization_basis" "attempt_chain_digest" b.attemptChainDigest
  each [("original_attempt_id", b.originalAttemptId), ("final_attempt_id", b.finalAttemptId),
    ("worker_id", b.workerId)] fun f => requireSomeString "run_finalization_basis" f.1 f.2
  each [("original_attempt_fence", b.originalAttemptFence), ("final_attempt_no", b.finalAttemptNo),
    ("final_attempt_fence", b.finalAttemptFence), ("worker_generation", b.workerGeneration)]
    fun f => requireSomePositiveInt "run_finalization_basis" f.1 f.2
  requireSomeNonnegativeInt "run_finalization_basis" "final_attempt_version" b.finalAttemptVersion
  invalidIf b.finalAttemptState.isNone "run_finalization_basis" "final_attempt_state" "unknown"
  invalidIf b.prestartClosureDigest.isSome "run_finalization_basis" "prestart_closure_digest"
    "forbidden"

def validateInputKind (b : Fields) : Result Unit :=
  match b.terminalInputKind with
  | .prestartCancel => b.validatePrestartCancel
  | .verifiedCancellationEvidence => do
    b.requireAttemptFields
    invalidIf (b.finalAttemptState ≠ some .cancelled) "run_finalization_basis"
      "final_attempt_state" "cancellation_requires_cancelled"
    each [("evidence_root_digest", b.evidenceRootDigest),
      ("cancellation_intent_digest", b.cancellationIntentDigest),
      ("cancellation_stop_digest", b.cancellationStopDigest)] fun f =>
      requireSomeDigest "run_finalization_basis" f.1 f.2
    invalidIf (b.outcome ≠ .cancelled) "run_finalization_basis" "outcome"
      "cancellation_requires_cancelled"
    b.validateCancelRule
  | .unknownAdjudication => do
    b.requireAttemptFields
    b.validateUnknownAdjudication
  | .verifiedEvidence => do
    b.requireAttemptFields
    invalidIf (b.finalAttemptState = some .attemptUnknown) "run_finalization_basis"
      "final_attempt_state" "unresolved_unknown"
    requireSomeDigest "run_finalization_basis" "evidence_root_digest" b.evidenceRootDigest
    invalidIf (some b.outcome.value ≠ b.finalAttemptState.map (·.value)) "run_finalization_basis"
      "outcome" "attempt_state_mismatch"

def postInit (b : Fields) : Result Unit := do
  each [("run_id", b.runId), ("batch_id", b.batchId),
    ("terminal_rule_schema", b.terminalRuleSchema)] fun f =>
    requireString "run_finalization_basis" f.1 f.2
  requireNonnegativeInt "run_finalization_basis" "source_run_version" b.sourceRunVersion
  requirePositiveInt "run_finalization_basis" "terminal_rule_version" b.terminalRuleVersion
  requirePositiveInt "run_finalization_basis" "item_count" b.itemCount
  invalidIf (b.disposition ≠ .closedNoRetry) "run_finalization_basis" "disposition"
    "basis_requires_closed_no_retry"
  b.validateDecisions
  b.validateInputKind

end RunFinalizationBasis.Fields

/-- What a closed Run was closed on. -/
structure RunFinalizationBasis extends RunFinalizationBasis.Fields where
  accepted : toFields.postInit = .ok ()
  deriving DecidableEq

namespace RunFinalizationBasis

def new : Fields → Result RunFinalizationBasis := construct Fields.postInit RunFinalizationBasis.mk

/-- Bind the basis to the resolution set it closes; a prestart cancel has no attempt chain. -/
def build (resolutionSet : RunItemResolutionSet) (values : Fields) :
    Result RunFinalizationBasis := do
  invalidIf (values.manifestDigest ≠ resolutionSet.manifestDigest ∨
    values.shardPlanDigest ≠ resolutionSet.shardPlanDigest ∨
    values.runItemSetDigest ≠ resolutionSet.runItemSetDigest ∨
    values.sourceRunVersion ≠ resolutionSet.sourceRunVersion) "run_finalization_basis"
    "resolution_set" "envelope_mismatch"
  let resolutionSetDigest ← resolutionSet.resolutionSetDigest
  let originalDigest ← resolutionSet.originalResolutionSetDigest
  let effectiveDigest ← resolutionSet.effectiveResolutionSetDigest
  new { values with
    runId := resolutionSet.runId
    batchId := resolutionSet.batchId
    attemptChainDigest := if values.terminalInputKind = .prestartCancel then none
      else some resolutionSet.attemptChainDigest
    retryChainDigest := resolutionSet.retryChainDigest
    adjudicationChainDigest := resolutionSet.adjudicationChainDigest
    itemResolutionSetDigest := resolutionSetDigest
    originalResolutionSetDigest := originalDigest
    effectiveResolutionSetDigest := effectiveDigest
    itemCount := resolutionSet.itemCount }

def decisionChainPayload (b : RunFinalizationBasis) : Json :=
  .list (b.decisionChain.map (·.canonicalPayload))

def decisionChainDigest (b : RunFinalizationBasis) : Result Digest :=
  canonicalDigest "qep.run-finalization-decision-chain.v1"
    (.dict [("decisions", b.decisionChainPayload)])

def payloadFields (b : RunFinalizationBasis) : Json.Members :=
  ("schema_version", .str "qep.run-finalization-basis.v1") :: ("run_id", .str b.runId) ::
    ("batch_id", .str b.batchId) :: ("source_run_version", .int b.sourceRunVersion) ::
    ("manifest_digest", .str b.manifestDigest.value) ::
    ("shard_plan_digest", .str b.shardPlanDigest.value) ::
    ("run_item_set_digest", .str b.runItemSetDigest.value) ::
    ("execution_spec_digest", .str b.executionSpecDigest.value) ::
    [("original_attempt_id", optionalString b.originalAttemptId),
    ("original_attempt_fence", optionalInt b.originalAttemptFence),
    ("final_attempt_id", optionalString b.finalAttemptId),
    ("final_attempt_no", optionalInt b.finalAttemptNo),
    ("final_attempt_fence", optionalInt b.finalAttemptFence),
    ("final_attempt_version", optionalInt b.finalAttemptVersion),
    ("final_attempt_state", optionalString (b.finalAttemptState.map fun s => s.value)),
    ("worker_id", optionalString b.workerId),
    ("worker_generation", optionalInt b.workerGeneration),
    ("attempt_chain_digest", optionalDigestValue b.attemptChainDigest),
    ("evidence_root_digest", optionalDigestValue b.evidenceRootDigest),
    ("unknown_observation_digest", optionalDigestValue b.unknownObservationDigest),
    ("adjudication_chain_digest", optionalDigestValue b.adjudicationChainDigest),
    ("retry_chain_digest", optionalDigestValue b.retryChainDigest),
    ("item_resolution_set_digest", .str b.itemResolutionSetDigest.value),
    ("original_resolution_set_digest", .str b.originalResolutionSetDigest.value),
    ("effective_resolution_set_digest", .str b.effectiveResolutionSetDigest.value),
    ("item_count", .int b.itemCount),
    ("cancellation_intent_digest", optionalDigestValue b.cancellationIntentDigest),
    ("cancellation_stop_digest", optionalDigestValue b.cancellationStopDigest),
    ("prestart_closure_digest", optionalDigestValue b.prestartClosureDigest),
    ("terminal_rule_schema", .str b.terminalRuleSchema),
    ("terminal_rule_version", .int b.terminalRuleVersion),
    ("terminal_rule_digest", .str b.terminalRuleDigest.value),
    ("decision_chain", b.decisionChainPayload), ("disposition", .str b.disposition.value),
    ("outcome", .str b.outcome.value), ("terminal_input_kind", .str b.terminalInputKind.value),
    ("item_resolution_schema", .str "qep.run-item-resolution-set"),
    ("item_resolution_version", .int 1)]

def basisDigest (b : RunFinalizationBasis) : Result Digest := do
  let chain ← b.decisionChainDigest
  canonicalDigest "qep.run-finalization-basis.v1"
    (.dict (b.payloadFields ++ ([("decision_chain_digest", .str chain.value)] : Json.Members)))

end RunFinalizationBasis

section
variable {r : RunItemResolution} {s o e : Digest}

def contractRule : RunFinalizationDecisionRef where
  sequence := 1
  decisionKind := .contractRule
  decisionSchema := "qep.contract-rule.v1"
  decisionId := "rule-1"
  decisionVersion := 1
  decisionDigest := Digest.zero
  decisionResult := .contractRule { outcome := .passed }
  accepted := by decide

/-- The closing values of that Run, around the digests of its resolution set. -/
def closing (r : RunItemResolution) (s o e : Digest) : RunFinalizationBasis.Fields where
  runId := "run-1"
  batchId := "batch-1"
  sourceRunVersion := 4
  manifestDigest := Digest.zero
  shardPlanDigest := Digest.zero
  runItemSetDigest := Digest.zero
  executionSpecDigest := Digest.zero
  originalAttemptId := some "attempt-1"
  originalAttemptFence := some 1
  finalAttemptId := r.effective.attemptId
  finalAttemptNo := r.effective.attemptNo
  finalAttemptFence := r.effective.attemptFence
  finalAttemptVersion := some 3
  finalAttemptState := some (if r.effective.outcome = .passed then .passed else .testFailed)
  workerId := some "worker-1"
  workerGeneration := some 1
  attemptChainDigest := some Digest.zero
  evidenceRootDigest := some Digest.zero
  unknownObservationDigest := none
  adjudicationChainDigest := none
  retryChainDigest := none
  itemResolutionSetDigest := s
  originalResolutionSetDigest := o
  effectiveResolutionSetDigest := e
  itemCount := 1
  cancellationIntentDigest := none
  cancellationStopDigest := none
  prestartClosureDigest := none
  terminalRuleSchema := "qep.terminal-rule.v1"
  terminalRuleVersion := 1
  terminalRuleDigest := Digest.zero
  decisionChain := [contractRule]
  disposition := .closedNoRetry
  outcome := r.effective.outcome
  terminalInputKind := .verifiedEvidence

/-- The sample items. -/
def Sampled (r : RunItemResolution) : Prop :=
  r = retriedItem ∨ r = failedItem ∨ r = launderedItem

theorem closing_accepted (hr : Sampled r) : (closing r s o e).postInit = .ok () := by
  have hdigests : (closing r s o e).postInit =
      (closing r Digest.zero Digest.zero Digest.zero).postInit := rfl
  rw [hdigests]
  rcases hr with rfl | rfl | rfl
  · decide
  · decide
  · decide

theorem itemDigest_ok (hr : Sampled r) : ∃ d, r.itemResolutionDigest = .ok d := by
  rcases hr with rfl | rfl | rfl
  · exact canonicalDigest_of_valid rfl
  · exact canonicalDigest_of_valid rfl
  · exact canonicalDigest_of_valid rfl

theorem originalDigest_ok (hr : Sampled r) :
    ∃ o, (oneRunSet r).originalResolutionSetDigest = .ok o := by
  rcases hr with rfl | rfl | rfl
  · exact canonicalDigest_of_valid rfl
  · exact canonicalDigest_of_valid rfl
  · exact canonicalDigest_of_valid rfl

theorem effectiveDigest_ok (hr : Sampled r) :
    ∃ e, (oneRunSet r).effectiveResolutionSetDigest = .ok e := by
  rcases hr with rfl | rfl | rfl
  · exact canonicalDigest_of_valid rfl
  · exact canonicalDigest_of_valid rfl
  · exact canonicalDigest_of_valid rfl

theorem setDigest_ok (hr : Sampled r) : ∃ s, (oneRunSet r).resolutionSetDigest = .ok s := by
  obtain ⟨d, hd⟩ := itemDigest_ok hr
  obtain ⟨o, ho⟩ := originalDigest_ok hr
  obtain ⟨e, he⟩ := effectiveDigest_ok hr
  simp only [RunItemResolutionSet.resolutionSetDigest, RunItemResolutionSet.canonicalPayload, ho,
    he, ok_bind]
  simp only [oneRunSet, collect, RunItemResolutionSet.entryPayload, hd, ok_bind, pure_bind]
  rcases hr with rfl | rfl | rfl
  · exact canonicalDigest_of_valid rfl
  · exact canonicalDigest_of_valid rfl
  · exact canonicalDigest_of_valid rfl

/-- The basis of that Run. -/
def closingBasis (hr : Sampled r) (s o e : Digest) : RunFinalizationBasis :=
  ⟨closing r s o e, closing_accepted hr⟩

theorem closingDigest_ok (hr : Sampled r) : ∃ d, (closingBasis hr s o e).basisDigest = .ok d := by
  have hchain : ∃ c, (closingBasis hr s o e).decisionChainDigest = .ok c :=
    canonicalDigest_of_valid rfl
  obtain ⟨c, hc⟩ := hchain
  simp only [RunFinalizationBasis.basisDigest, hc, ok_bind]
  rcases hr with rfl | rfl | rfl
  · exact canonicalDigest_of_valid rfl
  · exact canonicalDigest_of_valid rfl
  · exact canonicalDigest_of_valid rfl

end

/-- Orchestration lifecycle, independent from execution outcome. -/
inductive RunPhase where
  | planned
  | queued
  | assigned
  | running
  | retryQueued
  | closed
  deriving DecidableEq, Repr

structure RunFinalizationState.Fields where
  phase : RunPhase
  disposition : Option RunDisposition
  outcome : Option RunOutcome
  finalizationBasisDigest : Option Digest
  latestAttemptFact : Option AttemptExecutionFact
  currentAssignmentId : Option Str
  pendingRetryIntentId : Option Str
  deriving DecidableEq

namespace RunFinalizationState.Fields

def validateClosed (s : Fields) (entity : String) : Result Unit :=
  if s.phase = .closed then do
    invalidIf (s.disposition ≠ some .closedNoRetry) entity "disposition"
      "closed_requires_disposition"
    invalidIf s.outcome.isNone entity "outcome" "closed_requires_outcome"
    invalidIf s.finalizationBasisDigest.isNone entity "finalization_basis_digest"
      "closed_requires_basis"
    invalidIf (s.currentAssignmentId.isSome ∨ s.pendingRetryIntentId.isSome) entity "phase"
      "closed_forbids_active_pointer"
  else do
    invalidIf (s.disposition = some .closedNoRetry) entity "disposition"
      "closed_disposition_requires_closed_phase"
    invalidIf s.outcome.isSome entity "outcome" "outcome_requires_closed"
    invalidIf s.finalizationBasisDigest.isSome entity "finalization_basis_digest"
      "basis_requires_closed"

def validateReview (s : Fields) (entity : String) : Result Unit :=
  whenever (s.disposition = some .reviewRequired) do
    invalidIf (s.phase ≠ .running) entity "disposition" "review_requires_running"
    invalidIf (s.latestAttemptFact ≠ some .attemptUnknown) entity "latest_attempt_fact"
      "review_requires_unknown"

def validateRetry (s : Fields) (entity : String) : Result Unit :=
  if s.phase = .retryQueued then do
    invalidIf (s.disposition ≠ some .retryQueued) entity "disposition"
      "retry_requires_disposition"
    invalidIf s.pendingRetryIntentId.isNone entity "pending_retry_intent_id"
      "retry_requires_pending_intent"
    invalidIf s.currentAssignmentId.isSome entity "current_assignment_id"
      "retry_forbids_current_assignment"
  else do
    invalidIf (s.disposition = some .retryQueued) entity "disposition"
      "retry_disposition_requires_retry_phase"
    invalidIf s.pendingRetryIntentId.isSome entity "pending_retry_intent_id"
      "pending_intent_requires_retry_phase"

def postInit (s : Fields) : Result Unit := do
  each [("current_assignment_id", s.currentAssignmentId),
    ("pending_retry_intent_id", s.pendingRetryIntentId)] fun f =>
    whenSome f.2 (requireString "run_finalization_state" f.1)
  s.validateClosed "run_finalization_state"
  s.validateReview "run_finalization_state"
  s.validateRetry "run_finalization_state"

end RunFinalizationState.Fields

/-- Pure cross-field projection of a Run's finalization. -/
structure RunFinalizationState extends RunFinalizationState.Fields where
  accepted : toFields.postInit = .ok ()
  deriving DecidableEq

end QaRunner
