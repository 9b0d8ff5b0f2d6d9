import QaRunner.Application.RunClosedHandoff
import QaRunner.Domain.ResolutionDigest
import QaRunner.Domain.DigestIdentity

/-! A handoff that is built passes its own checks, and its payload digest pins every field. -/
namespace QaRunner
open Guarded

namespace DecisionResult

/-- The integers that the payload of a result holds. -/
def integers : DecisionResult → List ℤ
  | retryDecision r => [r.targetAttemptNo, r.targetAttemptFence]
  | _ => []

/-- The strings it holds beside names of the code and digests. -/
def strings : DecisionResult → List Str
  | retryDecision r => [r.targetAttemptId]
  | _ => []

theorem valid_iff {r : DecisionResult} {path : Str} :
    validateJsonValue path r.canonicalPayload = .ok () ↔
      (∀ n ∈ r.integers, SafeInt n) ∧ ∀ s ∈ r.strings, s.isUnicode = true := by
  cases r with
  | contractRule r =>
    simp [canonicalPayload, ContractRuleResultRef.canonicalPayload, integers, strings]
  | retryDecision r =>
    simp [canonicalPayload, RetryDecisionResultRef.canonicalPayload, integers, strings]
    tauto
  | unknownAdjudication r =>
    simp [canonicalPayload, UnknownAdjudicationResultRef.canonicalPayload, integers, strings]
  | duplicateRiskAcceptance r =>
    simp [canonicalPayload, DuplicateRiskAcceptanceResultRef.canonicalPayload, integers, strings]

end DecisionResult

namespace RunFinalizationDecisionRef

/-- The integers that the payload of a decision holds. -/
def integers (d : RunFinalizationDecisionRef) : List ℤ :=
  [d.sequence, d.decisionVersion] ++ d.sourceAttemptNo.toList ++ d.sourceAttemptFence.toList ++
    d.decisionResult.integers

/-- The strings it holds beside names of the code and digests. -/
def strings (d : RunFinalizationDecisionRef) : List Str :=
  [d.decisionSchema, d.decisionId] ++ d.sourceAttemptId.toList ++ d.decisionResult.strings

theorem valid_iff {d : RunFinalizationDecisionRef} {path : Str} :
    validateJsonValue path d.canonicalPayload = .ok () ↔
      (∀ n ∈ d.integers, SafeInt n) ∧ ∀ s ∈ d.strings, s.isUnicode = true := by
  simp only [canonicalPayload, integers, strings, validateJsonValue_dict, validateJsonFields_cons,
    validateJsonFields_nil, validateJsonValue_int, validateJsonValue_str,
    validateJsonValue_optionalString, validateJsonValue_optionalInt,
    validateJsonValue_optionalDigestValue, DecisionResult.valid_iff, List.forall_mem_append,
    List.forall_mem_cons, Option.mem_toList, Str.isUnicode_text, and_true, true_and]
  simp only [List.not_mem_nil, false_implies, implies_true, and_true]
  tauto

end RunFinalizationDecisionRef

namespace RunFinalizationBasis

/-- The integers that the payload of a basis holds. -/
def integers (b : RunFinalizationBasis) : List ℤ :=
  [b.sourceRunVersion, b.itemCount, b.terminalRuleVersion] ++ b.originalAttemptFence.toList ++
    b.finalAttemptNo.toList ++ b.finalAttemptFence.toList ++ b.finalAttemptVersion.toList ++
    b.workerGeneration.toList ++ b.decisionChain.flatMap (·.integers)

/-- The strings it holds beside names of the code and digests. -/
def strings (b : RunFinalizationBasis) : List Str :=
  [b.runId, b.batchId, b.terminalRuleSchema] ++ b.originalAttemptId.toList ++
    b.finalAttemptId.toList ++ b.workerId.toList ++ b.decisionChain.flatMap (·.strings)

theorem decisionChain_valid_iff {b : RunFinalizationBasis} {path : Str} :
    validateJsonValue path b.decisionChainPayload = .ok () ↔
      (∀ d ∈ b.decisionChain, ∀ n ∈ d.integers, SafeInt n) ∧
        ∀ d ∈ b.decisionChain, ∀ s ∈ d.strings, s.isUnicode = true := by
  rw [decisionChainPayload,
    validateJsonValue_map_iff fun _ _ => RunFinalizationDecisionRef.valid_iff]
  exact forall₂_and

/-- A basis has a digest exactly when its integers are safe and its strings valid Unicode. -/
theorem basisDigest_iff {b : RunFinalizationBasis} : (∃ digest, b.basisDigest = .ok digest) ↔
    (∀ n ∈ b.integers, SafeInt n) ∧ ∀ s ∈ b.strings, s.isUnicode = true := by
  have hstate : ∀ s ∈ b.finalAttemptState.map fun s => (s.value : Str), s.isUnicode = true := by
    intro s hs
    obtain ⟨fact, -, rfl⟩ := Option.mem_map.mp hs
    rfl
  have hone : SafeInt 1 := by decide
  have hchain : (∃ digest, b.decisionChainDigest = .ok digest) ↔
      validateJsonValue "$.payload.decisions" b.decisionChainPayload = .ok () := by
    simp only [decisionChainDigest, canonicalDigest_eq_ok, exists_and_left, exists_eq', and_true,
      validateJsonValue_dict, validateJsonFields_cons, validateJsonFields_nil]
    rfl
  have hfields : ∀ digest : Digest, validateJsonFields "$.payload"
      (b.payloadFields ++ ([("decision_chain_digest", .str digest.value)] : Json.Members)) =
        .ok () ↔ (∀ n ∈ b.integers, SafeInt n) ∧ ∀ s ∈ b.strings, s.isUnicode = true := by
    intro digest
    simp only [payloadFields, integers, strings, List.cons_append, List.nil_append,
      validateJsonFields_cons, validateJsonFields_nil, validateJsonValue_int, validateJsonValue_str,
      validateJsonValue_optionalString, validateJsonValue_optionalInt,
      validateJsonValue_optionalDigestValue, decisionChain_valid_iff, List.forall_mem_append,
      List.forall_mem_cons, Option.mem_toList, List.forall_mem_flatMap, Str.isUnicode_text, hone,
      and_true, true_and]
    tauto
  constructor
  · rintro ⟨digest, h⟩
    obtain ⟨chain, -, hvalid⟩ := bind_eq_ok.mp h
    exact (hfields chain).mp (canonicalDigest_eq_ok.mp hvalid).1
  · intro h
    obtain ⟨chain, hdigest⟩ := hchain.mpr (decisionChain_valid_iff.mpr
      ⟨fun d hd n hn => h.1 n (List.mem_append_right _ (List.mem_flatMap.mpr ⟨d, hd, hn⟩)),
        fun d hd s hs => h.2 s (List.mem_append_right _ (List.mem_flatMap.mpr ⟨d, hd, hs⟩))⟩)
    rw [basisDigest, hdigest, ok_bind]
    exact canonicalDigest_of_valid ((hfields chain).mpr h)

end RunFinalizationBasis

theorem TerminalInputKind.value_inj {k l : TerminalInputKind} : k.value = l.value ↔ k = l := by
  cases k <;> cases l <;> decide

theorem runClosedIdentity_ok {runId : Str} {version : ℤ} {digest : Digest}
    (hrun : runId.isUnicode = true) (hversion : SafeInt version) :
    ∃ d, runClosedIdentity runId version digest = .ok d :=
  canonicalDigest_of_valid (by simp [hrun, hversion])

namespace RunClosedBinding

variable {b c : RunClosedBinding} {d : Digest}

/-- A digest binds the fields of the handoff. -/
structure Digestible (b : RunClosedBinding) : Prop where
  batch_id : b.batchId.isUnicode = true
  run_id : b.runId.isUnicode = true
  source_run_version : SafeInt b.sourceRunVersion
  item_count : SafeInt b.itemCount
  write_epoch : SafeInt b.writeEpoch
  destination : b.destination.isUnicode = true

theorem payload_valid (h : b.Digestible) (path : Str) :
    validateJsonValue path b.payload = .ok () := by
  simp only [payload, validateJsonValue_dict, validateJsonFields_cons, validateJsonFields_nil,
    validateJsonValue_int, validateJsonValue_str, validateJsonValue_optionalDigestValue,
    Str.isUnicode_text, and_true, true_and]
  exact ⟨h.batch_id, h.run_id, h.source_run_version, h.item_count, h.write_epoch, h.destination⟩

theorem payloadDigest_ok (h : b.Digestible) : ∃ d, b.payloadDigest = .ok d := by
  obtain ⟨binding, hbinding⟩ : ∃ d, canonicalDigest "qep.run-closed-handoff.v1" b.payload = .ok d :=
    canonicalDigest_of_valid (payload_valid h "$.payload")
  rw [payloadDigest, hbinding, ok_bind]
  exact canonicalDigest_of_valid (by simp)

/-- No field is left out of the payload, and no two fields share a key. -/
theorem payload_norm_inj (h : b.payload.norm = c.payload.norm) : b = c := by
  replace h := Json.norm_dict_inj h rfl (by simp)
  simp only [List.map_cons, List.map_nil, Json.field, norm_str, norm_int,
    norm_optionalDigestValue, List.cons.injEq, Prod.mk.injEq, true_and, and_true, Json.str.injEq,
    Str.text.injEq, Json.int.injEq, optionalDigestValue_inj, Digest.value_inj, RunOutcome.value_inj,
    TerminalInputKind.value_inj] at h
  cases b
  cases c
  simpa only [mk.injEq] using h

/-- The text that is hashed for the digest of a binding. -/
def bindingText (b : RunClosedBinding) : List ℕ :=
  canonicalBytes "qep.run-closed-handoff.v1" b.payload

/-- The text that is hashed for the payload digest. -/
def eventText (b : RunClosedBinding) : List ℕ :=
  canonicalBytes "qep.run-closed-handoff-event-payload.v1"
    (.dict [("handoff_digest", .str (contentDigest "qep.run-closed-handoff.v1" b.payload).value)])

/-- SHA-256 does not confuse what is hashed for the two. -/
structure Apart (b c : RunClosedBinding) : Prop where
  binding : Sha256.hexdigest b.bindingText = Sha256.hexdigest c.bindingText →
    b.bindingText = c.bindingText
  event : Sha256.hexdigest b.eventText = Sha256.hexdigest c.eventText → b.eventText = c.eventText

theorem eq_of_payloadDigest (hb : b.payloadDigest = .ok d) (hc : c.payloadDigest = .ok d)
    (hapart : b.Apart c) : b = c := by
  simp only [payloadDigest, bind_eq_ok, canonicalDigest_eq_ok] at hb hc
  obtain ⟨e, ⟨-, he⟩, -, hevent⟩ := hb
  obtain ⟨e', ⟨-, he'⟩, -, hevent'⟩ := hc
  rw [← he] at hevent
  rw [← he'] at hevent'
  have htext : b.eventText = c.eventText :=
    hapart.event (contentDigest_eq_iff.mp (hevent.trans hevent'.symm))
  have hfields := Json.norm_dict_inj (canonicalBytes_eq_iff.mp htext).2 (by simp) (by simp)
  simp only [List.map_cons, List.map_nil, Json.field, norm_str, List.cons.injEq, Prod.mk.injEq,
    true_and, and_true, Json.str.injEq, Str.text.injEq, Digest.value_inj] at hfields
  have hpayload : b.bindingText = c.bindingText :=
    hapart.binding (contentDigest_eq_iff.mp hfields)
  exact payload_norm_inj (canonicalBytes_eq_iff.mp hpayload).2

end RunClosedBinding

namespace RunClosedHandoff.Fields

variable {f g : RunClosedHandoff.Fields}

/-- Everything else about an accepted handoff follows from what its payload digest binds. -/
theorem eq_of_binding (hf : f.postInit = .ok ()) (hg : g.postInit = .ok ())
    (hbinding : f.toRunClosedBinding = g.toRunClosedBinding) : f = g := by
  simp only [postInit, then_eq_ok, invalidIf_eq_ok, validateSelfConsistency_eq_ok, not_not,
    Prod.mk.injEq] at hf hg
  obtain ⟨⟨hschema, halgorithm, -⟩, -, -, hidentity, hid, hevent, hpayload⟩ := hf
  obtain ⟨⟨hschema', halgorithm', -⟩, -, -, hidentity', hid', hevent', hpayload'⟩ := hg
  rw [hbinding] at hpayload hidentity
  have hkey : f.semanticTriggerKey = g.semanticTriggerKey :=
    Except.ok.inj (hidentity.symm.trans hidentity')
  have hdigest : f.payloadDigest = g.payloadDigest :=
    Except.ok.inj (hpayload.symm.trans hpayload')
  rw [hkey] at hid hevent
  cases f
  cases g
  simp only [mk.injEq] at *
  exact ⟨hbinding, hschema.trans hschema'.symm, halgorithm.trans halgorithm'.symm, hkey,
    hid.trans hid'.symm, hevent.trans hevent'.symm, hdigest⟩

theorem payloadDigest_of_accepted (hf : f.postInit = .ok ()) :
    f.toRunClosedBinding.payloadDigest = .ok f.payloadDigest := by
  simp only [postInit, then_eq_ok, validateSelfConsistency_eq_ok] at hf
  exact hf.2.2.2.2.2.2

/-- A payload digest that two accepted handoffs share is of one handoff. -/
theorem eq_of_payloadDigest (hf : f.postInit = .ok ()) (hg : g.postInit = .ok ())
    (hapart : f.toRunClosedBinding.Apart g.toRunClosedBinding)
    (hdigest : f.payloadDigest = g.payloadDigest) : f = g := by
  have hpayload := payloadDigest_of_accepted hf
  rw [hdigest] at hpayload
  exact eq_of_binding hf hg
    (RunClosedBinding.eq_of_payloadDigest hpayload (payloadDigest_of_accepted hg) hapart)

end RunClosedHandoff.Fields

variable {basis : RunFinalizationBasis} {set : RunItemResolutionSet} {authority : Digest}
  {writeEpoch : ℤ}

/-- With safe integers, what decides whether a basis that closes its set is handed over is whether
its strings are valid Unicode. -/
theorem buildRunClosedHandoff_iff (hepoch : 1 ≤ writeEpoch) (hsafe : SafeInt writeEpoch)
    (hintegers : ∀ n ∈ basis.integers, SafeInt n)
    (hbinding : handoffMismatch basis set = .ok false) :
    (∃ handoff, buildRunClosedHandoff basis set authority writeEpoch = .ok handoff) ↔
      ∀ s ∈ basis.strings, s.isUnicode = true := by
  constructor
  · rintro ⟨handoff, h⟩
    obtain ⟨-, hdigest⟩ := buildRunClosedHandoff_eq_ok h
    exact (RunFinalizationBasis.basisDigest_iff.mp hdigest).2
  · intro hstrings
    obtain ⟨digest, hdigest⟩ := RunFinalizationBasis.basisDigest_iff.mpr ⟨hintegers, hstrings⟩
    have hversion : SafeInt basis.sourceRunVersion :=
      hintegers _ (by simp [RunFinalizationBasis.integers])
    have hcount : SafeInt basis.itemCount := hintegers _ (by simp [RunFinalizationBasis.integers])
    have hrun : basis.runId.isUnicode = true :=
      hstrings _ (by simp [RunFinalizationBasis.strings])
    have hbatch : basis.batchId.isUnicode = true :=
      hstrings _ (by simp [RunFinalizationBasis.strings])
    exact buildRunClosedHandoff_ok hbinding hdigest hepoch (runClosedIdentity_ok hrun hversion)
      (RunClosedBinding.payloadDigest_ok ⟨hbatch, hrun, hversion, hcount, hsafe, rfl⟩)

/-- A basis that closes its set is handed over when its strings are valid Unicode, and only then;
two accepted handoffs with one payload digest are equal; and no other fields are accepted under the
payload digest of a handoff. -/
theorem run_closed_handoff_sealed (hepoch : 1 ≤ writeEpoch) (hsafe : SafeInt writeEpoch)
    (hintegers : ∀ n ∈ basis.integers, SafeInt n)
    (hbinding : handoffMismatch basis set = .ok false) :
    ((∃ handoff, buildRunClosedHandoff basis set authority writeEpoch = .ok handoff) ↔
      ∀ s ∈ basis.strings, s.isUnicode = true) ∧
    (∀ h h' : RunClosedHandoff, h.toRunClosedBinding.Apart h'.toRunClosedBinding →
      h.payloadDigest = h'.payloadDigest → h = h') ∧
    ∀ (h : RunClosedHandoff) (f : RunClosedHandoff.Fields),
      f.toRunClosedBinding.Apart h.toRunClosedBinding → f.payloadDigest = h.payloadDigest →
      f ≠ h.toFields → ∃ e, f.postInit = .error e := by
  refine ⟨buildRunClosedHandoff_iff hepoch hsafe hintegers hbinding, ?_, ?_⟩
  · rintro ⟨f, hf⟩ ⟨g, hg⟩ hapart hdigest
    obtain rfl : f = g := RunClosedHandoff.Fields.eq_of_payloadDigest hf hg hapart hdigest
    rfl
  · intro h f hapart hdigest hne
    cases hf : f.postInit with
    | ok _ =>
      exact absurd (RunClosedHandoff.Fields.eq_of_payloadDigest hf h.accepted hapart hdigest) hne
    | error e => exact ⟨e, rfl⟩

theorem failed_sampled : Sampled failedItem := Or.inr (Or.inl rfl)

/-- The digests of the set of the failed Run, with any basis that names them bound to the set. -/
theorem failed_binding : ∃ s o e : Digest, ∀ basis : RunFinalizationBasis,
    basis.toFields = { closing failedItem s o e with workerId := basis.workerId } →
      handoffMismatch basis (oneRunSet failedItem) = .ok false := by
  obtain ⟨s, hs⟩ := setDigest_ok failed_sampled
  obtain ⟨o, ho⟩ := originalDigest_ok failed_sampled
  obtain ⟨e, he⟩ := effectiveDigest_ok failed_sampled
  have houtcome : RunOutcome.testFailed = (oneRunSet failedItem).auditOutcome := by decide
  refine ⟨s, o, e, fun basis hfields => ?_⟩
  rw [handoffMismatch_eq_ok, hfields]
  exact ⟨rfl, rfl, rfl, hs, ho, he, rfl, rfl, houtcome⟩

theorem failed_integers {basis : RunFinalizationBasis} {s o e : Digest}
    (hfields : basis.toFields = { closing failedItem s o e with workerId := basis.workerId }) :
    ∀ n ∈ basis.integers, SafeInt n := by
  have hlist : basis.integers = [4, 1, 1, 1, 1, 1, 3, 1, 1, 1] := by
    rw [RunFinalizationBasis.integers, hfields]
    rfl
  rw [hlist]
  decide

/-- The handoff of the failed Run. -/
theorem run_closed_handoff_sealed_failed : ∃ (basis : RunFinalizationBasis)
    (handoff : RunClosedHandoff), handoffMismatch basis (oneRunSet failedItem) = .ok false ∧
      buildRunClosedHandoff basis (oneRunSet failedItem) Digest.zero 1 = .ok handoff := by
  obtain ⟨s, o, e, hbinds⟩ := failed_binding
  have hbinding := hbinds (closingBasis failed_sampled s o e) rfl
  have hstrings : ∀ text ∈ (closingBasis failed_sampled s o e).strings,
      text.isUnicode = true := by
    have hlist : (closingBasis failed_sampled s o e).strings = ["run-1", "batch-1",
        "qep.terminal-rule.v1", "attempt-1", "attempt-1", "worker-1", "qep.contract-rule.v1",
        "rule-1"] := rfl
    rw [hlist]
    decide
  obtain ⟨hbuilds, -⟩ := @run_closed_handoff_sealed _ _ Digest.zero 1 (by decide) (by decide)
    (failed_integers rfl) hbinding
  obtain ⟨handoff, hbuilt⟩ := hbuilds.mpr hstrings
  exact ⟨_, handoff, hbinding, hbuilt⟩

/-- A worker id that is a lone surrogate. -/
def strayWorker : Str := .stray "" ⟨0, Nat.zero_lt_succ _⟩ ""

theorem strayBasis_accepted {s o e : Digest} : RunFinalizationBasis.Fields.postInit
    { closing failedItem s o e with workerId := some strayWorker } = .ok () := by
  have hdigests : RunFinalizationBasis.Fields.postInit
        { closing failedItem s o e with workerId := some strayWorker } =
      RunFinalizationBasis.Fields.postInit
        { closing failedItem Digest.zero Digest.zero Digest.zero with
          workerId := some strayWorker } := rfl
  rw [hdigests]
  decide

/-- The failed Run, executed by that worker. -/
def strayBasis (s o e : Digest) : RunFinalizationBasis where
  toFields := { closing failedItem s o e with workerId := some strayWorker }
  accepted := strayBasis_accepted

/-- A basis may close its set, hold safe integers alone and still have no handoff. -/
theorem stray_worker_not_handed_over :
    ¬ ∀ (basis : RunFinalizationBasis) (set : RunItemResolutionSet) (authority : Digest)
      (writeEpoch : ℤ), 1 ≤ writeEpoch → SafeInt writeEpoch →
      (∀ n ∈ basis.integers, SafeInt n) → handoffMismatch basis set = .ok false →
      ∃ handoff, buildRunClosedHandoff basis set authority writeEpoch = .ok handoff := by
  intro hall
  obtain ⟨s, o, e, hbinds⟩ := failed_binding
  obtain ⟨handoff, hbuilt⟩ := hall (strayBasis s o e) _ Digest.zero 1 (by decide) (by decide)
    (failed_integers rfl) (hbinds (strayBasis s o e) rfl)
  obtain ⟨-, hdigest⟩ := buildRunClosedHandoff_eq_ok hbuilt
  have hstray := (RunFinalizationBasis.basisDigest_iff.mp hdigest).2 strayWorker
    (by simp [RunFinalizationBasis.strings, strayBasis])
  cases hstray

end QaRunner
