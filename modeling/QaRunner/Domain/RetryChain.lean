import QaRunner.Domain.RunClosing
import Mathlib.Logic.Relation

/-! The way from the original attempt of a Run to its final one: what the decision chain of an
accepted basis says about every retry in between. -/
namespace QaRunner
open Guarded

/-- An attempt as decisions name it. -/
structure AttemptRef where
  id : Str
  no : ℤ
  fence : ℤ
  deriving DecidableEq

def RetryDecisionResultRef.target (r : RetryDecisionResultRef) : AttemptRef :=
  ⟨r.targetAttemptId, r.targetAttemptNo, r.targetAttemptFence⟩

namespace RunFinalizationDecisionRef
variable {ref : RunFinalizationDecisionRef} {a a' : AttemptRef}

/-- The decision was taken about this attempt. -/
def About (ref : RunFinalizationDecisionRef) (a : AttemptRef) : Prop :=
  ref.sourceAttemptId = some a.id ∧ ref.sourceAttemptNo = some a.no ∧
    ref.sourceAttemptFence = some a.fence

instance : Decidable (ref.About a) := inferInstanceAs (Decidable (_ ∧ _))

/-- A retry by policy, which names the attempt it leads to. -/
def RetriesTo (ref : RunFinalizationDecisionRef) (a' : AttemptRef) : Prop :=
  ∃ result, ref.decisionResult = .retryDecision result ∧ result.target = a'

/-- An adjudication of an unknown attempt that lets another one start. -/
def PermitsRetry (ref : RunFinalizationDecisionRef) : Prop :=
  ∃ result, ref.decisionResult = .unknownAdjudication result ∧ result.decision.permitsRetry = true

/-- The decision authorises the step from an attempt to the next one. -/
def Authorises (ref : RunFinalizationDecisionRef) (a a' : AttemptRef) : Prop :=
  ref.About a ∧ a'.no = a.no + 1 ∧ a.fence < a'.fence ∧ (ref.RetriesTo a' ∨ ref.PermitsRetry)

theorem About.unique (h : ref.About a) (h' : ref.About a') : a = a' := by
  obtain ⟨hid, hno, hfence⟩ := h
  obtain ⟨hid', hno', hfence'⟩ := h'
  cases a
  cases a'
  simp_all

theorem continuesFrom_iff {p : RetryDecisionResultRef} : ref.continuesFrom p = true ↔
    ref.About p.target ∧ ref.sourceItemSetDigest = some p.targetItemSetDigest := by
  simp only [continuesFrom, decide_eq_true_iff, About, RetryDecisionResultRef.target, and_assoc]

theorem isExpected_accepted (ref : RunFinalizationDecisionRef) :
    ref.decisionResult.isExpected ref.decisionKind = true := by
  have h := ref.accepted
  simp only [Fields.postInit, then_eq_ok, invalidIf_eq_ok, Bool.not_eq_false] at h
  exact h.2.2.2.2.1

/-- Retry decisions are the ones of the two retry kinds. -/
theorem kind_of_retriesTo (h : ref.RetriesTo a') :
    ref.decisionKind = .suiteRetry ∨ ref.decisionKind = .platformRetry := by
  obtain ⟨result, hresult, -⟩ := h
  have hkind := ref.isExpected_accepted
  rw [hresult] at hkind
  cases hk : ref.decisionKind <;> simp_all [DecisionResult.isExpected]

theorem kind_of_permitsRetry (h : ref.PermitsRetry) :
    ref.decisionKind = .unknownAdjudication := by
  obtain ⟨result, hresult, -⟩ := h
  have hkind := ref.isExpected_accepted
  rw [hresult] at hkind
  cases hk : ref.decisionKind <;> simp_all [DecisionResult.isExpected]

theorem one_le_of_about (h : ref.About a) : 1 ≤ a.no := by
  have haccepted := ref.accepted
  simp only [Fields.postInit, then_eq_ok, invalidIf_eq_ok, whenever_eq_ok, not_and,
    requireSomePositiveInt_eq_ok] at haccepted
  obtain ⟨-, -, -, -, -, -, hall, hsource⟩ := haccepted
  have hpresent : [ref.sourceAttemptId.isSome, ref.sourceAttemptNo.isSome,
      ref.sourceAttemptFence.isSome, ref.sourceItemSetDigest.isSome].all id = true := by
    by_contra hne
    exact hall (by simp [h.1]) hne
  obtain ⟨-, ⟨no, hno, hpos⟩, -⟩ := hsource hpresent
  obtain rfl := Option.some.inj (h.2.1.symm.trans hno)
  exact hpos

end RunFinalizationDecisionRef

namespace RunFinalizationBasis.Fields
open RunFinalizationDecisionRef
variable {ref : RunFinalizationDecisionRef} {refs : List RunFinalizationDecisionRef}
  {previous last : Option RetryDecisionResultRef} {p : RetryDecisionResultRef} {a a' z : AttemptRef}
  {chain : List RunFinalizationDecisionRef}

theorem validateRetryChain_cons :
    validateRetryChain previous (ref :: refs) = .ok last ↔ ∃ result a,
      ref.decisionResult = .retryDecision result ∧ ref.About a ∧
      ref.sourceItemSetDigest = some result.targetItemSetDigest ∧
      result.target.no = a.no + 1 ∧ a.fence < result.target.fence ∧
      (∀ p, previous = some p →
        a = p.target ∧ p.targetItemSetDigest = result.targetItemSetDigest) ∧
      validateRetryChain (some result) refs = .ok last := by
  simp only [validateRetryChain, bind_eq_ok, exists_unit, invalidIf_eq_ok, need_eq_ok,
    whenSome_eq_ok, not_or, not_le, ne_eq, not_not, Bool.not_eq_false,
    continuesFrom_iff]
  constructor
  · rintro ⟨result, hresult, hid, no, hno, fence, hfence, ⟨htargetNo, htargetFence, hset⟩, hprev,
      hrest⟩
    have hresult' : ref.decisionResult = .retryDecision result := by
      cases h : ref.decisionResult <;> simp_all [DecisionResult.assertRetry]
    obtain ⟨id, hid⟩ := Option.ne_none_iff_exists'.mp (Option.isNone_iff_eq_none.not.mp hid)
    have habout : ref.About ⟨id, no, fence⟩ := ⟨hid, hno, hfence⟩
    refine ⟨result, ⟨id, no, fence⟩, hresult', habout, hset.symm, htargetNo, htargetFence,
      fun p hp => ?_, hrest⟩
    obtain ⟨hp', hpset⟩ := hprev p hp
    exact ⟨habout.unique hp', Option.some.inj (hpset.symm.trans hset.symm)⟩
  · rintro ⟨result, a, hresult, ⟨hid, hno, hfence⟩, hset, htargetNo, htargetFence, hprev, hrest⟩
    refine ⟨result, by rw [hresult]; rfl, by simp [hid], a.no, hno, a.fence, hfence,
      ⟨htargetNo, htargetFence, hset.symm⟩, fun p hp => ?_, hrest⟩
    obtain ⟨rfl, hpset⟩ := hprev p hp
    exact ⟨⟨hid, hno, hfence⟩, hset.trans (congrArg some hpset.symm)⟩

/-- A step of the way that some entry of the chain authorises. -/
def StepOf (chain : List RunFinalizationDecisionRef) (a a' : AttemptRef) : Prop :=
  ∃ ref ∈ chain, ref.Authorises a a'

/-- A checked chain leads from one attempt to the next, up to the target of its last decision. -/
theorem links_of_chain (hsub : ∀ ref ∈ refs, ref ∈ chain)
    (h : validateRetryChain (some p) refs = .ok last) :
    ∃ result, last = some result ∧
      Relation.ReflTransGen (StepOf chain) p.target result.target := by
  induction refs generalizing p with
  | nil =>
    cases h
    exact ⟨p, rfl, .refl⟩
  | cons ref refs ih =>
    rw [List.forall_mem_cons] at hsub
    obtain ⟨result, a, hresult, habout, -, hno, hfence, hprev, hrest⟩ :=
      validateRetryChain_cons.mp h
    obtain ⟨rfl, -⟩ := hprev p rfl
    obtain ⟨final, hlast, hpath⟩ := ih hsub.2 hrest
    exact ⟨final, hlast, hpath.head
      ⟨ref, hsub.1, habout, hno, hfence, Or.inl ⟨result, hresult, rfl⟩⟩⟩

/-- Attempt numbers grow along a checked chain. -/
theorem le_no_of_chain (h : validateRetryChain (some p) refs = .ok last) :
    ∀ ref ∈ refs, ∀ a, ref.About a → p.target.no ≤ a.no := by
  induction refs generalizing p with
  | nil => simp
  | cons ref refs ih =>
    obtain ⟨result, b, hresult, habout, -, hno, -, hprev, hrest⟩ := validateRetryChain_cons.mp h
    obtain ⟨rfl, -⟩ := hprev p rfl
    rw [List.forall_mem_cons]
    refine ⟨fun a ha => (ha.unique habout).symm ▸ Int.le_refl _, fun ref' href' a ha => ?_⟩
    have hle := ih hrest ref' href' a ha
    omega

/-- The retries by policy, in chain order. -/
def policyRetries (b : Fields) : List RunFinalizationDecisionRef :=
  b.decisionChain.filter fun ref =>
    ref.decisionKind = .suiteRetry ∨ ref.decisionKind = .platformRetry

/-- The original attempt, which is the first one. -/
def StartsOn (b : Fields) (a : AttemptRef) : Prop :=
  b.originalAttemptId = some a.id ∧ a.no = 1 ∧ b.originalAttemptFence = some a.fence

def ClosesOn (b : Fields) (a : AttemptRef) : Prop :=
  b.finalAttemptId = some a.id ∧ b.finalAttemptNo = some a.no ∧ b.finalAttemptFence = some a.fence

theorem validateRetryDecisions_cons {b : Fields} {first : RunFinalizationDecisionRef}
    (hpolicies : b.policyRetries = first :: refs) : b.validateRetryDecisions = .ok () ↔
      ∃ result a final, first.decisionResult = .retryDecision result ∧ first.About a ∧
        first.sourceItemSetDigest = some result.targetItemSetDigest ∧
        result.target.no = a.no + 1 ∧ a.fence < result.target.fence ∧
        validateRetryChain (some result) refs = .ok (some final) ∧
        b.originalAttemptId = some a.id ∧ b.originalAttemptFence = some a.fence ∧
        b.ClosesOn final.target ∧ final.targetItemSetDigest = b.runItemSetDigest := by
  rw [policyRetries] at hpolicies
  simp only [validateRetryDecisions, hpolicies, bind_eq_ok, validateRetryChain_cons, reduceCtorEq,
    false_imp_iff, implies_true, true_and, List.head?_cons, whenSome_eq_ok, Option.some.injEq,
    forall_eq', need_eq_ok, invalidIf_eq_ok, not_or, ne_eq, not_not]
  constructor
  · rintro ⟨last, ⟨result, a, hresult, habout, hset, hno, hfence, hrest⟩, final, rfl, hid, hfence',
      hfinal, hfinalNo, hfinalFence, hfinalSet⟩
    exact ⟨result, a, final, hresult, habout, hset, hno, hfence, hrest, hid.symm.trans habout.1,
      hfence'.symm.trans habout.2.2, ⟨hfinal.symm, hfinalNo.symm, hfinalFence.symm⟩, hfinalSet⟩
  · rintro ⟨result, a, final, hresult, habout, hset, hno, hfence, hrest, hid, hfence',
      ⟨hfinal, hfinalNo, hfinalFence⟩, hfinalSet⟩
    exact ⟨_, ⟨result, a, hresult, habout, hset, hno, hfence, hrest⟩, final, rfl,
      habout.1.trans hid.symm, habout.2.2.trans hfence'.symm, hfinal.symm, hfinalNo.symm,
      hfinalFence.symm, hfinalSet⟩

end RunFinalizationBasis.Fields

namespace RunFinalizationBasis
open Fields

/-- The Run was closed on another attempt than its original one. -/
def Retried (b : RunFinalizationBasis) : Prop :=
  (∃ no, b.finalAttemptNo = some no ∧ 1 < no) ∨ b.finalAttemptId ≠ b.originalAttemptId ∨
    b.finalAttemptFence ≠ b.originalAttemptFence

/-- Authorising entries of the chain lead from the original attempt to the final one. -/
def RetriesAuthorised (b : RunFinalizationBasis) : Prop :=
  ∃ o f, b.StartsOn o ∧ b.ClosesOn f ∧ Relation.TransGen (StepOf b.decisionChain) o f

/-- An adjudication of the original attempt opens the way to the final one. -/
def OpenedByAdjudication (b : RunFinalizationBasis) : Prop :=
  ∃ o f, b.StartsOn o ∧ b.ClosesOn f ∧ ∃ ref ∈ b.decisionChain, ref.PermitsRetry ∧
    ∃ a, ref.Authorises o a ∧ Relation.ReflTransGen (StepOf b.decisionChain) a f

theorem retries_accepted (b : RunFinalizationBasis) : b.validateRetryDecisions = .ok () := by
  have h := b.decisions_accepted
  simp only [validateDecisions, then_eq_ok] at h
  exact h.2.2

theorem mem_policyRetries {b : RunFinalizationBasis} {ref : RunFinalizationDecisionRef}
    {a : AttemptRef} (href : ref ∈ b.decisionChain) (h : ref.RetriesTo a) :
    ref ∈ b.policyRetries :=
  List.mem_filter.mpr ⟨href, decide_eq_true (RunFinalizationDecisionRef.kind_of_retriesTo h)⟩

/-- A policy retry of attempt one leaves the rest of the way to the continuity check. -/
theorem authorised_of_policy {b : RunFinalizationBasis} {first : RunFinalizationDecisionRef}
    (hfirst : b.policyRetries.head? = some first) (hno : first.sourceAttemptNo = some 1) :
    b.RetriesAuthorised := by
  obtain ⟨refs, hpolicies⟩ := List.head?_eq_some_iff.mp hfirst
  obtain ⟨result, a, final, hresult, habout, -, hstep, hfence, hrest, hid, hofence, hcloses, -⟩ :=
    (validateRetryDecisions_cons hpolicies).mp b.retries_accepted
  have hsub : ∀ ref ∈ first :: refs, ref ∈ b.decisionChain := by
    intro ref href
    rw [← hpolicies] at href
    exact (List.mem_filter.mp href).1
  rw [List.forall_mem_cons] at hsub
  obtain ⟨_, hlast, hpath⟩ := links_of_chain hsub.2 hrest
  obtain rfl := Option.some.inj hlast
  refine ⟨a, final.target, ⟨hid, Option.some.inj (habout.2.1.symm.trans hno), hofence⟩, hcloses, ?_⟩
  exact .head' ⟨first, hsub.1, habout, hstep, hfence, Or.inl ⟨result, hresult, rfl⟩⟩ hpath

/-- A policy retry of attempt one is the first policy retry. -/
theorem first_of_policy {b : RunFinalizationBasis} {ref : RunFinalizationDecisionRef}
    {o a : AttemptRef} (href : ref ∈ b.decisionChain) (habout : ref.About o) (ho : o.no = 1)
    (h : ref.RetriesTo a) :
    ∃ first, b.policyRetries.head? = some first ∧ first.sourceAttemptNo = some 1 := by
  have hmem := mem_policyRetries href h
  cases hpolicies : b.policyRetries with
  | nil =>
    rw [hpolicies] at hmem
    cases hmem
  | cons first refs =>
    rw [hpolicies, List.mem_cons] at hmem
    obtain ⟨result, a', final, -, habout', -, hstep, -, hrest, -⟩ :=
      (validateRetryDecisions_cons hpolicies).mp b.retries_accepted
    refine ⟨first, rfl, ?_⟩
    rcases hmem with rfl | hmem
    · rw [habout.2.1, ho]
    · have hle := le_no_of_chain hrest ref hmem o habout
      have hpos := RunFinalizationDecisionRef.one_le_of_about habout'
      omega

/-- The continuity check covers a retried Run only when a policy retry leaves its first attempt;
any other way out of that attempt must be an adjudication, which nothing follows up. -/
theorem retries_authorised_iff (b : RunFinalizationBasis) :
    (b.terminalInputKind ≠ .prestartCancel → b.Retried → b.RetriesAuthorised) ↔
      (b.terminalInputKind ≠ .prestartCancel → b.Retried →
        (∃ first, b.policyRetries.head? = some first ∧ first.sourceAttemptNo = some 1) ∨
          b.OpenedByAdjudication) := by
  refine imp_congr_right fun _ => imp_congr_right fun _ => ⟨?_, ?_⟩
  · rintro ⟨o, f, ho, hf, hpath⟩
    obtain ⟨a, ⟨ref, href, hauth⟩, hrest⟩ := Relation.TransGen.head'_iff.mp hpath
    rcases hauth.2.2.2 with hretry | hpermits
    · exact Or.inl (first_of_policy href hauth.1 ho.2.1 hretry)
    · exact Or.inr ⟨o, f, ho, hf, ref, href, hpermits, a, hauth, hrest⟩
  · rintro (⟨first, hfirst, hno⟩ | ⟨o, f, ho, hf, ref, href, -, a, hauth, hrest⟩)
    · exact authorised_of_policy hfirst hno
    · exact ⟨o, f, ho, hf, .head' ⟨ref, href, hauth⟩ hrest⟩

/-- A Run closed on its second attempt, with nothing in its chain but a contract rule. -/
theorem retried_without_decision : ∃ b : RunFinalizationBasis,
    b.terminalInputKind = .verifiedEvidence ∧ b.decisionChain = [contractRule] ∧ b.Retried ∧
      ¬ b.RetriesAuthorised := by
  refine ⟨closingBasis (Or.inl rfl) Digest.zero Digest.zero Digest.zero, rfl, rfl,
    Or.inl ⟨2, rfl, by decide⟩, ?_⟩
  rintro ⟨o, f, -, -, hpath⟩
  obtain ⟨a, ⟨ref, href, hauth⟩, -⟩ := Relation.TransGen.head'_iff.mp hpath
  obtain rfl := List.mem_singleton.mp href
  rcases hauth.2.2.2 with ⟨_, hresult, -⟩ | ⟨_, hresult, -⟩
  · cases hresult
  · cases hresult

end RunFinalizationBasis

namespace RunFinalizationBasis.Fields
open RunFinalizationDecisionRef
variable {ref : RunFinalizationDecisionRef} {refs : List RunFinalizationDecisionRef}
  {p final : RetryDecisionResultRef} {a a' z : AttemptRef} {itemSet : Digest} {b : Fields}

/-- The entries authorise the steps of an attempt history on one item set, one each, in order. -/
inductive History (itemSet : Digest) :
    AttemptRef → List RunFinalizationDecisionRef → AttemptRef → Prop
  | single (a : AttemptRef) : History itemSet a [] a
  | step {a a' z : AttemptRef} {ref : RunFinalizationDecisionRef}
      {refs : List RunFinalizationDecisionRef} (source : ref.sourceItemSetDigest = some itemSet)
      (target : ∀ result, ref.decisionResult = .retryDecision result →
        result.targetItemSetDigest = itemSet)
      (authorises : ref.Authorises a a') (rest : History itemSet a' refs z) :
      History itemSet a (ref :: refs) z

theorem History.length (h : History itemSet a refs z) : z.no = a.no + refs.length := by
  induction h with
  | single => simp
  | step _ _ hauth _ ih =>
    have hno := hauth.2.1
    rw [List.length_cons]
    omega

theorem History.fence_le (h : History itemSet a refs z) : a.fence ≤ z.fence := by
  induction h with
  | single => exact Int.le_refl _
  | step _ _ hauth _ ih => exact Int.le_trans (Int.le_of_lt hauth.2.2.1) ih

theorem History.authorises (h : History itemSet a refs z) :
    ∀ ref ∈ refs, (∃ a', ref.RetriesTo a') ∨ ref.PermitsRetry := by
  induction h with
  | single => simp
  | step _ _ hauth _ ih =>
    rw [List.forall_mem_cons]
    exact ⟨hauth.2.2.2.imp (fun h => ⟨_, h⟩) id, ih⟩

/-- Fences rise, so the fence of the first attempt is its own. -/
theorem History.first_of_fence (h : History itemSet a refs z) :
    ∀ ref ∈ refs, ∀ b, ref.About b → a.fence ≤ b.fence ∧ (b.fence = a.fence → b = a) := by
  induction h with
  | single => simp
  | step _ _ hauth _ ih =>
    rw [List.forall_mem_cons]
    refine ⟨fun b hb => ?_, fun ref href b hb => ?_⟩
    · obtain rfl := hb.unique hauth.1
      exact ⟨Int.le_refl _, fun _ => rfl⟩
    · have hle := (ih ref href b hb).1
      have hlt := hauth.2.2.1
      exact ⟨by omega, fun heq => by omega⟩

theorem no_of_chain (h : validateRetryChain (some p) refs = .ok (some final)) :
    final.target.no = p.target.no + refs.length := by
  induction refs generalizing p with
  | nil =>
    cases h
    simp
  | cons ref refs ih =>
    obtain ⟨result, b, -, -, -, hno, -, hprev, hrest⟩ := validateRetryChain_cons.mp h
    obtain ⟨rfl, -⟩ := hprev p rfl
    have hlength := ih hrest
    rw [List.length_cons]
    omega

/-- A history of policy retries passes the continuity check. -/
theorem History.chain (h : History itemSet a refs z) (hp : p.target = a)
    (hset : p.targetItemSetDigest = itemSet) (hretry : ∀ ref ∈ refs, ∃ a', ref.RetriesTo a') :
    ∃ final, validateRetryChain (some p) refs = .ok (some final) ∧ final.target = z ∧
      final.targetItemSetDigest = itemSet := by
  induction h generalizing p with
  | single => exact ⟨p, rfl, hp, hset⟩
  | step hsource htarget hauth hrest ih =>
    rw [List.forall_mem_cons] at hretry
    obtain ⟨⟨_, hto⟩, hretries⟩ := hretry
    obtain ⟨result, hresult, rfl⟩ : RetriesTo _ _ := by
      rcases hauth.2.2.2 with h | ⟨_, hresult, -⟩
      · exact h
      · obtain ⟨_, hresult', -⟩ := hto
        cases hresult.symm.trans hresult'
    obtain ⟨final, hchain, hfinal⟩ := ih rfl (htarget result hresult) hretries
    refine ⟨final, validateRetryChain_cons.mpr ⟨result, _, hresult, hauth.1, ?_, hauth.2.1,
      hauth.2.2.1, fun p' hp' => ?_, hchain⟩, hfinal⟩
    · rw [hsource, htarget result hresult]
    · obtain rfl := Option.some.inj hp'
      exact ⟨hp.symm, hset.trans (htarget result hresult).symm⟩

/-- The basis of a Run whose retries were all authorised, closed on the evidence of its last
attempt, with its decisions in step order beside a contract rule. -/
structure LegallyRetried (b : Fields) (refs : List RunFinalizationDecisionRef) : Prop where
  history : ∃ first last, History b.runItemSetDigest first refs last ∧ b.StartsOn first ∧
    b.ClosesOn last ∧ isBlank first.id = false ∧ isBlank last.id = false ∧ 1 ≤ first.fence
  chain : ∃ before rule after, b.decisionChain = before ++ rule :: after ∧
    before ++ after = refs ∧ rule.decisionKind = .contractRule
  sequence : b.decisionChain.map (·.sequence) =
    (List.range b.decisionChain.length).map fun i => (i : ℤ) + 1
  verified : b.terminalInputKind = .verifiedEvidence
  state : b.finalAttemptState = some .passed ∧ b.outcome = .passed ∨
    b.finalAttemptState = some .testFailed ∧ b.outcome = .testFailed
  evidence : b.evidenceRootDigest.isSome
  names : isBlank b.runId = false ∧ isBlank b.batchId = false ∧
    isBlank b.terminalRuleSchema = false
  versions : 0 ≤ b.sourceRunVersion ∧ 1 ≤ b.terminalRuleVersion ∧ 1 ≤ b.itemCount
  disposition : b.disposition = .closedNoRetry
  attempts : b.attemptChainDigest.isSome
  worker : ∃ id generation, b.workerId = some id ∧ isBlank id = false ∧
    b.workerGeneration = some generation ∧ 1 ≤ generation
  version : ∃ version, b.finalAttemptVersion = some version ∧ 0 ≤ version
  started : b.prestartClosureDigest = none

namespace LegallyRetried

/-- Only the check of the retry decisions can refuse such a basis. -/
theorem accepted_iff (h : b.LegallyRetried refs) :
    b.postInit = .ok () ↔ b.validateRetryDecisions = .ok () := by
  obtain ⟨first, last, hhistory, ⟨hid, hfirstNo, hfence⟩, ⟨hfinal, hfinalNo, hfinalFence⟩, hblank,
    hblank', hpos⟩ := h.history
  obtain ⟨before, rule, after, hchain, -, hrule⟩ := h.chain
  obtain ⟨worker, generation, hworker, hworkerBlank, hgeneration, hgenerationPos⟩ := h.worker
  obtain ⟨version, hversion, hversionPos⟩ := h.version
  have hlastFence := hhistory.fence_le
  have hlastNo := hhistory.length
  refine ⟨fun hb => retries_accepted ⟨b, hb⟩, fun hretries => ?_⟩
  have hdecisions : b.validateDecisions = .ok () := by
    simp only [validateDecisions, then_eq_ok, invalidIf_eq_ok, ne_eq, not_not, hretries, and_true]
    exact ⟨h.sequence, rule, by simp [hchain], hrule⟩
  have hattempts : b.requireAttemptFields = .ok () := by
    simp only [requireAttemptFields, then_eq_ok, each_eq_ok, List.forall_mem_cons,
      requireSomeDigest_eq_ok, requireSomeString_eq_ok, requireSomePositiveInt_eq_ok,
      requireSomeNonnegativeInt_eq_ok, invalidIf_eq_ok]
    refine ⟨h.attempts, ⟨⟨_, hid, hblank⟩, ⟨_, hfinal, hblank'⟩, ⟨_, hworker, hworkerBlank⟩,
      by simp⟩, ⟨⟨_, hfence, hpos⟩, ⟨_, hfinalNo, by omega⟩, ⟨_, hfinalFence, by omega⟩,
      ⟨_, hgeneration, hgenerationPos⟩, by simp⟩, ⟨_, hversion, hversionPos⟩, ?_, by
      simp [h.started]⟩
    rcases h.state with ⟨hstate, -⟩ | ⟨hstate, -⟩ <;> simp [hstate]
  have hinput : b.validateInputKind = .ok () := by
    simp only [validateInputKind, h.verified, then_eq_ok, hattempts, invalidIf_eq_ok,
      requireSomeDigest_eq_ok, h.evidence, true_and]
    rcases h.state with ⟨hstate, houtcome⟩ | ⟨hstate, houtcome⟩ <;> rw [hstate, houtcome] <;> decide
  simp only [postInit, then_eq_ok, each_eq_ok, List.forall_mem_cons, requireString_eq_ok,
    requireNonnegativeInt_eq_ok, requirePositiveInt_eq_ok, invalidIf_eq_ok, ne_eq, not_not]
  exact ⟨⟨h.names.1, h.names.2.1, h.names.2.2, by simp⟩, h.versions.1, h.versions.2.1,
    h.versions.2.2, h.disposition, hdecisions, hinput⟩

theorem policyRetries_eq (h : b.LegallyRetried refs) : b.policyRetries = refs.filter fun ref =>
    ref.decisionKind = .suiteRetry ∨ ref.decisionKind = .platformRetry := by
  obtain ⟨before, rule, after, hchain, rfl, hrule⟩ := h.chain
  rw [policyRetries, hchain, List.filter_append, List.filter_append, List.filter_cons_of_neg]
  simp [hrule]

theorem all_policy (h : b.LegallyRetried refs) (hretry : ∀ ref ∈ refs, ∃ a', ref.RetriesTo a') :
    b.validateRetryDecisions = .ok () := by
  obtain ⟨first, last, hhistory, ⟨hid, -, hfence⟩, hcloses, -⟩ := h.history
  have hpolicies : b.policyRetries = refs := by
    rw [h.policyRetries_eq, List.filter_eq_self]
    intro ref href
    obtain ⟨a', ha⟩ := hretry ref href
    exact decide_eq_true (kind_of_retriesTo ha)
  cases hhistory with
  | single =>
    rw [policyRetries] at hpolicies
    simp only [validateRetryDecisions, hpolicies]
    rfl
  | step hsource htarget hauth hrest =>
    rw [List.forall_mem_cons] at hretry
    obtain ⟨⟨_, _, hresult', -⟩, hretries⟩ := hretry
    obtain ⟨result, hresult, rfl⟩ : RetriesTo _ _ := by
      rcases hauth.2.2.2 with h | ⟨_, hresult, -⟩
      · exact h
      · cases hresult.symm.trans hresult'
    obtain ⟨final, hchain, rfl, hset⟩ := hrest.chain rfl (htarget result hresult) hretries
    refine (validateRetryDecisions_cons hpolicies).mpr ⟨result, _, final, hresult, hauth.1, ?_,
      hauth.2.1, hauth.2.2.1, hchain, hid, hfence, hcloses, hset⟩
    rw [hsource, htarget result hresult]

theorem no_policy (h : b.LegallyRetried refs) (hpermits : ∀ ref ∈ refs, ref.PermitsRetry) :
    b.validateRetryDecisions = .ok () := by
  have hpolicies : b.policyRetries = [] := by
    rw [h.policyRetries_eq, List.filter_eq_nil_iff]
    intro ref href
    simp [kind_of_permitsRetry (hpermits ref href)]
  rw [policyRetries] at hpolicies
  simp only [validateRetryDecisions, hpolicies]
  rfl

/-- A policy retry anywhere must start at the original attempt and reach the final one, and only
as many policy retries as there are steps can do that. -/
theorem all_of_policy (h : b.LegallyRetried refs) (hb : b.validateRetryDecisions = .ok ())
    (hne : b.policyRetries ≠ []) : ∀ ref ∈ refs, ∃ a', ref.RetriesTo a' := by
  obtain ⟨start, last, hhistory, ⟨hid, hstart, hfence⟩, ⟨-, hfinalNo, -⟩, -⟩ := h.history
  obtain ⟨first, rest, hpolicies⟩ := List.exists_cons_of_ne_nil hne
  obtain ⟨result, a, final, -, habout, -, hstep, -, hrest, hid', hfence', ⟨-, hfinalNo', -⟩, -⟩ :=
    (validateRetryDecisions_cons hpolicies).mp hb
  have hfirst : first ∈ refs := by
    have hmem : first ∈ b.policyRetries := hpolicies ▸ List.mem_cons_self
    rw [h.policyRetries_eq] at hmem
    exact (List.mem_filter.mp hmem).1
  obtain rfl : a = start := (hhistory.first_of_fence first hfirst a habout).2
    (Option.some.inj (hfence'.symm.trans hfence))
  have hlength : b.policyRetries.length = refs.length := by
    have hpath := no_of_chain hrest
    have hlast := hhistory.length
    have hsame := Option.some.inj (hfinalNo.symm.trans hfinalNo')
    rw [hpolicies, List.length_cons]
    omega
  rw [h.policyRetries_eq, List.length_filter_eq_length_iff] at hlength
  intro ref href
  rcases hhistory.authorises ref href with hretry | hpermits
  · exact hretry
  · have hkind := hlength ref href
    simp [kind_of_permitsRetry hpermits] at hkind

/-- A legally retried Run can be closed when its retries are all of one mechanism, and cannot when
both took part. -/
theorem closes_iff (h : b.LegallyRetried refs) : b.postInit = .ok () ↔
    (∀ ref ∈ refs, ∃ a', ref.RetriesTo a') ∨ ∀ ref ∈ refs, ref.PermitsRetry := by
  rw [h.accepted_iff]
  constructor
  · intro hb
    by_cases hnone : b.policyRetries = []
    · right
      obtain ⟨_, _, hhistory, -⟩ := h.history
      intro ref href
      rcases hhistory.authorises ref href with ⟨a', hretry⟩ | hpermits
      · have hmem : ref ∈ b.policyRetries := by
          rw [h.policyRetries_eq]
          exact List.mem_filter.mpr ⟨href, decide_eq_true (kind_of_retriesTo hretry)⟩
        rw [hnone] at hmem
        cases hmem
      · exact hpermits
    · exact Or.inl (h.all_of_policy hb hnone)
  · rintro (hretry | hpermits)
    · exact h.all_policy hretry
    · exact h.no_policy hpermits

end LegallyRetried

section
variable {chain : List RunFinalizationDecisionRef}

/-- The suite policy retries attempt one. -/
def suiteRetryRef : RunFinalizationDecisionRef where
  sequence := 2
  decisionKind := .suiteRetry
  decisionSchema := "qep.run-retry-decision.v1"
  decisionId := "retry-1"
  decisionVersion := 1
  decisionDigest := Digest.zero
  decisionResult := .retryDecision {
    retryIntentDigest := Digest.zero
    retryDecisionDigest := Digest.zero
    retryAuthorityDigest := Digest.zero
    targetAttemptId := "attempt-2"
    targetAttemptNo := 2
    targetAttemptFence := 2
    targetItemSetDigest := Digest.zero
    accepted := by decide }
  sourceAttemptId := some "attempt-1"
  sourceAttemptNo := some 1
  sourceAttemptFence := some 1
  sourceItemSetDigest := some Digest.zero
  accepted := by decide

/-- An adjudication of attempt two, which ended unknown, lets attempt three start. -/
def adjudicatedRetryRef : RunFinalizationDecisionRef where
  sequence := 3
  decisionKind := .unknownAdjudication
  decisionSchema := "qep.unknown-adjudication.v1"
  decisionId := "adjudication-1"
  decisionVersion := 1
  decisionDigest := Digest.zero
  decisionResult := .unknownAdjudication {
    adjudicationDigest := Digest.zero
    decision := .confirmStoppedThenRetry }
  sourceAttemptId := some "attempt-2"
  sourceAttemptNo := some 2
  sourceAttemptFence := some 2
  sourceItemSetDigest := some Digest.zero
  accepted := by decide

theorem suiteRetryRef_authorises :
    suiteRetryRef.Authorises ⟨"attempt-1", 1, 1⟩ ⟨"attempt-2", 2, 2⟩ :=
  ⟨by decide, by decide, by decide, Or.inl ⟨_, rfl, rfl⟩⟩

theorem adjudicatedRetryRef_authorises :
    adjudicatedRetryRef.Authorises ⟨"attempt-2", 2, 2⟩ ⟨"attempt-3", 3, 3⟩ :=
  ⟨by decide, by decide, by decide, Or.inr ⟨_, rfl, rfl⟩⟩

/-- The closing values of the sample, with the decisions behind its last attempt. -/
def closingBy (r : RunItemResolution) (chain : List RunFinalizationDecisionRef) : Fields :=
  { closing r Digest.zero Digest.zero Digest.zero with decisionChain := chain }

theorem suite_retried :
    (closingBy retriedItem [contractRule, suiteRetryRef]).LegallyRetried [suiteRetryRef] where
  history := ⟨⟨"attempt-1", 1, 1⟩, ⟨"attempt-2", 2, 2⟩,
    .step rfl (by rintro _ ⟨⟩; rfl) suiteRetryRef_authorises (.single _),
    ⟨rfl, rfl, rfl⟩, ⟨rfl, rfl, rfl⟩, by decide, by decide, by decide⟩
  chain := ⟨[], contractRule, [suiteRetryRef], rfl, rfl, rfl⟩
  sequence := by decide
  verified := rfl
  state := Or.inl ⟨rfl, rfl⟩
  evidence := rfl
  names := by decide
  versions := by decide
  disposition := rfl
  attempts := rfl
  worker := ⟨_, _, rfl, by decide, rfl, by decide⟩
  version := ⟨_, rfl, by decide⟩
  started := rfl

theorem both_retried :
    (closingBy launderedItem [contractRule, suiteRetryRef, adjudicatedRetryRef]).LegallyRetried
      [suiteRetryRef, adjudicatedRetryRef] :=
  { suite_retried with
    history := ⟨⟨"attempt-1", 1, 1⟩, ⟨"attempt-3", 3, 3⟩,
      .step rfl (by rintro _ ⟨⟩; rfl) suiteRetryRef_authorises
        (.step rfl (by rintro _ ⟨⟩) adjudicatedRetryRef_authorises (.single _)),
      ⟨rfl, rfl, rfl⟩, ⟨rfl, rfl, rfl⟩, by decide, by decide, by decide⟩
    chain := ⟨[], contractRule, [suiteRetryRef, adjudicatedRetryRef], rfl, rfl, rfl⟩
    sequence := by decide }

end

/-- One policy retry, and the Run can be closed. -/
theorem LegallyRetried.closes_suite_retried :
    (closingBy retriedItem [contractRule, suiteRetryRef]).postInit = .ok () :=
  (closes_iff suite_retried).mpr (Or.inl (by
    rintro ref href
    obtain rfl := List.mem_singleton.mp href
    exact ⟨_, _, rfl, rfl⟩))

/-- A policy retry followed by an adjudicated one: both legal, and the Run cannot be closed. -/
theorem LegallyRetried.mixed_not_closable : ∃ (b : Fields) (refs : List RunFinalizationDecisionRef),
    b.LegallyRetried refs ∧ b.postInit ≠ .ok () :=
  ⟨_, _, both_retried, by decide⟩

end RunFinalizationBasis.Fields
end QaRunner
