import QaRunner.Domain.RunFinalizationBasis

/-! Immutable Run-closed facts handed to Batch finalization. -/
namespace QaRunner
open Guarded

/-- What the digest of a handoff binds. -/
structure RunClosedBinding where
  batchId : Str
  runId : Str
  sourceRunVersion : ℤ
  runBasisDigest : Digest
  runOutcome : RunOutcome
  terminalInputKind : TerminalInputKind
  manifestDigest : Digest
  shardPlanDigest : Digest
  runItemSetDigest : Digest
  originalResolutionSetDigest : Digest
  effectiveResolutionSetDigest : Digest
  itemResolutionSetDigest : Digest
  itemCount : ℤ
  cancellationIntentDigest : Option Digest
  unknownObservationDigest : Option Digest
  adjudicationChainDigest : Option Digest
  retryChainDigest : Option Digest
  authorityDigest : Digest
  writeEpoch : ℤ
  destination : Str
  deriving DecidableEq

namespace RunClosedBinding

def payload (b : RunClosedBinding) : Json :=
  .dict [("batch_id", .str b.batchId), ("run_id", .str b.runId),
    ("source_run_version", .int b.sourceRunVersion),
    ("run_basis_digest", .str b.runBasisDigest.value), ("run_outcome", .str b.runOutcome.value),
    ("terminal_input_kind", .str b.terminalInputKind.value),
    ("manifest_digest", .str b.manifestDigest.value),
    ("shard_plan_digest", .str b.shardPlanDigest.value),
    ("run_item_set_digest", .str b.runItemSetDigest.value),
    ("original_resolution_set_digest", .str b.originalResolutionSetDigest.value),
    ("effective_resolution_set_digest", .str b.effectiveResolutionSetDigest.value),
    ("item_resolution_set_digest", .str b.itemResolutionSetDigest.value),
    ("item_count", .int b.itemCount),
    ("cancellation_intent_digest", optionalDigestValue b.cancellationIntentDigest),
    ("unknown_observation_digest", optionalDigestValue b.unknownObservationDigest),
    ("adjudication_chain_digest", optionalDigestValue b.adjudicationChainDigest),
    ("retry_chain_digest", optionalDigestValue b.retryChainDigest),
    ("authority_digest", .str b.authorityDigest.value), ("write_epoch", .int b.writeEpoch),
    ("destination", .str b.destination)]

def payloadDigest (b : RunClosedBinding) : Result Digest := do
  let binding ← canonicalDigest "qep.run-closed-handoff.v1" b.payload
  canonicalDigest "qep.run-closed-handoff-event-payload.v1"
    (.dict [("handoff_digest", .str binding.value)])

end RunClosedBinding

def runClosedIdentity (runId : Str) (sourceRunVersion : ℤ) (basisDigest : Digest) :
    Result Digest :=
  canonicalDigest "qep.run-closed-handoff-identity.v1"
    (.dict [("schema_version", .str "qep.run-closed-handoff.v1"), ("run_id", .str runId),
      ("source_run_version", .int sourceRunVersion), ("run_basis_digest", .str basisDigest.value)])

def identitySuffix (identity : Digest) : Str := String.ofList (identity.value.toList.drop 7)

structure RunClosedHandoff.Fields extends RunClosedBinding where
  schemaVersion : Str
  identityAlgorithmVersion : Str
  semanticTriggerKey : Digest
  handoffId : Str
  eventId : Str
  payloadDigest : Digest
  deriving DecidableEq

namespace RunClosedHandoff.Fields

def validateSelfConsistency (h : Fields) : Result Unit := do
  let identity ← runClosedIdentity h.runId h.sourceRunVersion h.runBasisDigest
  let mismatch ← anyOf [differs h.semanticTriggerKey (.ok identity),
    differs h.handoffId (.ok ("run-closed-handoff-" ++ identitySuffix identity)),
    differs h.eventId (.ok ("run-closed-event-" ++ identitySuffix identity)),
    differs h.payloadDigest h.toRunClosedBinding.payloadDigest]
  invalidIf (mismatch = true) "run_closed_handoff" "self_consistency" "invalid"

theorem validateSelfConsistency_eq_ok {h : Fields} {u : Unit} :
    h.validateSelfConsistency = .ok u ↔
      runClosedIdentity h.runId h.sourceRunVersion h.runBasisDigest = .ok h.semanticTriggerKey ∧
        h.handoffId = "run-closed-handoff-" ++ identitySuffix h.semanticTriggerKey ∧
        h.eventId = "run-closed-event-" ++ identitySuffix h.semanticTriggerKey ∧
        h.toRunClosedBinding.payloadDigest = .ok h.payloadDigest := by
  simp only [validateSelfConsistency, bind_eq_ok, invalidIf_eq_ok, Bool.not_eq_true]
  constructor
  · rintro ⟨identity, hidentity, _, hmismatch, rfl⟩
    simp only [anyOf_eq_ok_false, List.forall_mem_cons, differs_eq_ok_false, Except.ok.injEq]
      at hmismatch
    obtain ⟨rfl, hhandoff, hevent, hpayload, -⟩ := hmismatch
    exact ⟨hidentity, hhandoff.symm, hevent.symm, hpayload⟩
  · rintro ⟨hidentity, hhandoff, hevent, hpayload⟩
    refine ⟨_, hidentity, false, ?_, rfl⟩
    simp only [anyOf_eq_ok_false, List.forall_mem_cons, differs_eq_ok_false, Except.ok.injEq]
    exact ⟨trivial, hhandoff.symm, hevent.symm, hpayload, by simp⟩

def postInit (h : Fields) : Result Unit := do
  invalidIf ((h.schemaVersion, h.identityAlgorithmVersion, h.destination) ≠
    (("qep.run-closed-handoff.v1", "canonical-sha256.v1", "batch_finalization") : Str × Str × Str))
    "run_closed_handoff" "envelope" "invalid"
  invalidIf (∃ name ∈ [h.handoffId, h.eventId, h.batchId, h.runId], isBlank name = true)
    "run_closed_handoff" "identity" "invalid"
  invalidIf (h.sourceRunVersion < 0 ∨ h.itemCount < 1 ∨ h.writeEpoch < 1) "run_closed_handoff"
    "integer" "invalid"
  h.validateSelfConsistency

end RunClosedHandoff.Fields

/-- What a Batch is told about a Run that was closed. -/
structure RunClosedHandoff extends RunClosedHandoff.Fields where
  accepted : toFields.postInit = .ok ()
  deriving DecidableEq

/-- What stops a handoff from being built. -/
inductive HandoffFailure where
  | valueError (message : Str)
  | domain (e : DomainError)
  deriving DecidableEq

def HandoffFailure.lift {α : Type} : Result α → Except HandoffFailure α
  | .ok a => .ok a
  | .error e => .error (.domain e)

theorem HandoffFailure.lift_eq_ok {α : Type} {x : Result α} {a : α} :
    lift x = .ok a ↔ x = .ok a := by
  cases x <;> simp [lift]

variable {basis : RunFinalizationBasis} {set : RunItemResolutionSet} {authority : Digest}
  {writeEpoch : ℤ} {handoff : RunClosedHandoff} {digest : Digest}

/-- The basis disagrees with the set it is handed over with. -/
def handoffMismatch (basis : RunFinalizationBasis) (set : RunItemResolutionSet) : Result Bool :=
  anyOf [differs basis.runId (.ok set.runId), differs basis.batchId (.ok set.batchId),
    differs basis.sourceRunVersion (.ok set.sourceRunVersion),
    differs basis.itemResolutionSetDigest set.resolutionSetDigest,
    differs basis.originalResolutionSetDigest set.originalResolutionSetDigest,
    differs basis.effectiveResolutionSetDigest set.effectiveResolutionSetDigest,
    differs basis.runItemSetDigest (.ok set.runItemSetDigest),
    differs basis.itemCount (.ok set.itemCount), differs basis.outcome (.ok set.auditOutcome)]

/-- What the handoff of a basis binds. -/
def closedBinding (basis : RunFinalizationBasis) (basisDigest authorityDigest : Digest)
    (writeEpoch : ℤ) : RunClosedBinding where
  batchId := basis.batchId
  runId := basis.runId
  sourceRunVersion := basis.sourceRunVersion
  runBasisDigest := basisDigest
  runOutcome := basis.outcome
  terminalInputKind := basis.terminalInputKind
  manifestDigest := basis.manifestDigest
  shardPlanDigest := basis.shardPlanDigest
  runItemSetDigest := basis.runItemSetDigest
  originalResolutionSetDigest := basis.originalResolutionSetDigest
  effectiveResolutionSetDigest := basis.effectiveResolutionSetDigest
  itemResolutionSetDigest := basis.itemResolutionSetDigest
  itemCount := basis.itemCount
  cancellationIntentDigest := basis.cancellationIntentDigest
  unknownObservationDigest := basis.unknownObservationDigest
  adjudicationChainDigest := basis.adjudicationChainDigest
  retryChainDigest := basis.retryChainDigest
  authorityDigest := authorityDigest
  writeEpoch := writeEpoch
  destination := "batch_finalization"

def buildRunClosedHandoff (basis : RunFinalizationBasis) (resolutionSet : RunItemResolutionSet)
    (authorityDigest : Digest) (writeEpoch : ℤ) : Except HandoffFailure RunClosedHandoff := do
  let mismatch ← HandoffFailure.lift (handoffMismatch basis resolutionSet)
  raiseIf (mismatch = true) (.valueError "run_closed_handoff/binding_mismatch")
  let basisDigest ← HandoffFailure.lift basis.basisDigest
  let identity ← HandoffFailure.lift
    (runClosedIdentity basis.runId basis.sourceRunVersion basisDigest)
  let values := closedBinding basis basisDigest authorityDigest writeEpoch
  let payload ← HandoffFailure.lift values.payloadDigest
  HandoffFailure.lift (construct RunClosedHandoff.Fields.postInit RunClosedHandoff.mk {
    toRunClosedBinding := values
    schemaVersion := "qep.run-closed-handoff.v1"
    identityAlgorithmVersion := "canonical-sha256.v1"
    semanticTriggerKey := identity
    handoffId := "run-closed-handoff-" ++ identitySuffix identity
    eventId := "run-closed-event-" ++ identitySuffix identity
    payloadDigest := payload })

theorem handoffMismatch_eq_ok : handoffMismatch basis set = .ok false ↔
    basis.runId = set.runId ∧ basis.batchId = set.batchId ∧
      basis.sourceRunVersion = set.sourceRunVersion ∧
      set.resolutionSetDigest = .ok basis.itemResolutionSetDigest ∧
      set.originalResolutionSetDigest = .ok basis.originalResolutionSetDigest ∧
      set.effectiveResolutionSetDigest = .ok basis.effectiveResolutionSetDigest ∧
      basis.runItemSetDigest = set.runItemSetDigest ∧ basis.itemCount = set.itemCount ∧
      basis.outcome = set.auditOutcome := by
  simp only [handoffMismatch, anyOf_eq_ok_false, List.forall_mem_cons, differs_eq_ok_false,
    Except.ok.injEq, eq_comm (b := basis.runId), eq_comm (b := basis.batchId),
    eq_comm (b := basis.sourceRunVersion), eq_comm (b := basis.runItemSetDigest),
    eq_comm (b := basis.itemCount), eq_comm (b := basis.outcome)]
  simp

/-- A handoff is built only for a basis that closes its set and has a digest. -/
theorem buildRunClosedHandoff_eq_ok
    (h : buildRunClosedHandoff basis set authority writeEpoch = .ok handoff) :
    handoffMismatch basis set = .ok false ∧ ∃ digest, basis.basisDigest = .ok digest := by
  simp only [buildRunClosedHandoff, bind_eq_ok, exists_unit, HandoffFailure.lift_eq_ok,
    raiseIf_eq_ok, Bool.not_eq_true] at h
  obtain ⟨_, hmismatch, rfl, digest, hdigest, -⟩ := h
  exact ⟨hmismatch, digest, hdigest⟩

theorem isBlank_append {s : String} {t : Str} (h : isBlank s = false) :
    isBlank (s ++ t) = false := by
  cases t with
  | text t =>
    change (s ++ t).toList.all isSpace = false
    change s.toList.all isSpace = false at h
    rw [String.toList_append, List.all_append, h, Bool.false_and]
  | stray => rfl

/-- Nothing but a digest that cannot be computed stops the handoff of a basis that closes its
set. -/
theorem buildRunClosedHandoff_ok (hmismatch : handoffMismatch basis set = .ok false)
    (hdigest : basis.basisDigest = .ok digest) (hepoch : 1 ≤ writeEpoch)
    (hidentity : ∃ d, runClosedIdentity basis.runId basis.sourceRunVersion digest = .ok d)
    (hpayload : ∃ d, (closedBinding basis digest authority writeEpoch).payloadDigest = .ok d) :
    ∃ handoff, buildRunClosedHandoff basis set authority writeEpoch = .ok handoff := by
  obtain ⟨identity, hidentity⟩ := hidentity
  obtain ⟨payload, hpayload⟩ := hpayload
  have haccepted := basis.accepted
  simp only [RunFinalizationBasis.Fields.postInit, then_eq_ok, each_eq_ok, List.forall_mem_cons,
    requireString_eq_ok, requireNonnegativeInt_eq_ok, requirePositiveInt_eq_ok] at haccepted
  obtain ⟨⟨hrun, hbatch, -⟩, hversion, -, hcount, -⟩ := haccepted
  simp only [buildRunClosedHandoff, bind_eq_ok, exists_unit, HandoffFailure.lift_eq_ok,
    raiseIf_eq_ok]
  refine ⟨_, false, hmismatch, by simp, digest, hdigest, identity, hidentity, payload, hpayload,
    construct_of_ok ?_⟩
  simp only [RunClosedHandoff.Fields.postInit, then_eq_ok, invalidIf_eq_ok,
    RunClosedHandoff.Fields.validateSelfConsistency_eq_ok]
  refine ⟨by simp [closedBinding], ?_, ?_, hidentity, trivial, trivial, hpayload⟩
  · simp only [closedBinding, not_exists, not_and, Bool.not_eq_true, List.forall_mem_cons]
    exact ⟨isBlank_append (by decide), isBlank_append (by decide), hbatch, hrun, by simp⟩
  · simp only [closedBinding]
    omega

end QaRunner
