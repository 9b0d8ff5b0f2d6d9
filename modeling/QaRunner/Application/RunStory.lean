import QaRunner.Application.RunFinalization
import QaRunner.Domain.AttemptSelection
import QaRunner.Domain.PolicyRetry
import QaRunner.Domain.RunClosing

/-! The attempts a closing basis points at, and the attempts its items come from. -/
namespace QaRunner
open Guarded

namespace OriginalItemResolution
variable (o : OriginalItemResolution)

theorem source_accepted : o.validateSource "original_item_resolution" = .ok () := by
  have h := o.accepted
  simp only [Fields.postInit, then_eq_ok] at h
  exact h.2

/-- An original is a prestart cancellation or it names an attempt, never both. -/
theorem prestart_iff : (o.sourceKind = .prestartCancel ↔ o.attemptId = none) ∧
    (o.sourceKind = .prestartCancel ↔ o.prestartClosureDigest.isSome) := by
  have h := o.source_accepted
  unfold Fields.validateSource at h
  cases hk : o.sourceKind with
  | prestartCancel =>
    simp only [hk, then_eq_ok, forbidPresent_eq_ok, List.forall_mem_cons,
      requireSomeDigest_eq_ok] at h
    obtain ⟨-, ⟨hid, -⟩, hclosure⟩ := h
    simpa [hclosure] using hid
  | attemptResult =>
    simp only [hk, then_eq_ok, ItemFact.requireAttemptIdentity, requireSomeString_eq_ok,
      invalidIf_eq_ok] at h
    obtain ⟨⟨⟨id, hid, -⟩, -⟩, hclosure, -⟩ := h
    simp [hid, hclosure]
  | attemptTerminalFallback =>
    simp only [hk, then_eq_ok, ItemFact.requireAttemptIdentity, requireSomeString_eq_ok,
      invalidIf_eq_ok] at h
    obtain ⟨⟨⟨id, hid, -⟩, -⟩, hclosure, -⟩ := h
    simp [hid, hclosure]

end OriginalItemResolution

variable {basis : RunFinalizationBasis} {set : RunItemResolutionSet} {s o e : Digest}

/-- The Run and each of its items name the same attempts. -/
structure OneStory (basis : RunFinalizationBasis) (set : RunItemResolutionSet) : Prop where
  retried : ∀ entry ∈ set.entries, entry.effective.sourceKind = .authorizedRetry →
    entry.effective.attemptId = basis.finalAttemptId ∧
      entry.effective.attemptNo = basis.finalAttemptNo ∧
      entry.effective.attemptFence = basis.finalAttemptFence
  started : ∀ entry ∈ set.entries, entry.original.sourceKind ≠ .prestartCancel →
    entry.original.attemptId = basis.originalAttemptId ∧
      entry.original.attemptFence = basis.originalAttemptFence
  prestart : basis.terminalInputKind = .prestartCancel → ∀ entry ∈ set.entries,
    entry.original.sourceKind = .prestartCancel ∧
      entry.original.prestartClosureDigest = basis.prestartClosureDigest
  unknown : basis.terminalInputKind = .unknownAdjudication →
    ∃ entry ∈ set.entries, entry.aggregationClass = .unknownLineage

/-- The execution fact a closed attempt ended with. -/
def AttemptState.executionFact : AttemptState → Option AttemptExecutionFact
  | .passed => some .passed
  | .testFailed => some .testFailed
  | .infraFailed => some .infraFailed
  | .cancelled => some .cancelled
  | .attemptUnknown => some .attemptUnknown
  | _ => none

/-- The original is a fact of this attempt: what its evidence says of the item, or, where the
evidence says nothing, how the attempt ended. -/
structure FactOf (first : Attempt) (o : OriginalItemResolution) : Prop where
  id : o.attemptId = some first.id
  no : o.attemptNo = some first.attemptNo
  fence : o.attemptFence = some first.fence
  evidence : ∀ root, o.evidenceRootDigest = some root →
    first.evidence.map (·.rootDigest) = some root
  fallback : o.sourceKind = .attemptTerminalFallback →
    first.state.executionFact = some o.executionFact

/-- The verified observations are those of this attempt. -/
structure ReportOf (a : Attempt) (report : VerifiedAttemptResolutionSet) : Prop where
  id : report.attemptId = a.id
  no : report.attemptNo = a.attemptNo
  fence : report.attemptFence = a.fence

/-- The basis and the set are both drawn up from the attempts of one Run, the reports of its
retries, and the closure of a Run that never started. -/
structure Drawn (attempts : List Attempt) (reports : List VerifiedAttemptResolutionSet)
    (closure : Option Digest) (basis : RunFinalizationBasis) (set : RunItemResolutionSet) :
    Prop where
  original : basis.originalAttemptId = attempts.head?.map (·.id) ∧
    basis.originalAttemptFence = attempts.head?.map (·.fence)
  final : basis.finalAttemptId = attempts.getLast?.map (·.id) ∧
    basis.finalAttemptNo = attempts.getLast?.map (·.attemptNo) ∧
    basis.finalAttemptFence = attempts.getLast?.map (·.fence)
  ended : basis.finalAttemptState = attempts.getLast?.bind (·.state.executionFact)
  closed : basis.prestartClosureDigest = closure
  reported : List.Forall₂ ReportOf attempts.tail reports
  never : attempts = [] → ∀ entry ∈ set.entries, entry.original.sourceKind = .prestartCancel ∧
    entry.original.prestartClosureDigest = closure
  first : ∀ first ∈ attempts.head?, ∀ entry ∈ set.entries, FactOf first entry.original
  retried : ∀ entry ∈ set.entries, entry.effective.sourceKind = .authorizedRetry →
    ∃ first ∈ attempts.head?, ∃ target, selectLatestAuthorizedCompleteAttempt
      (set.entries.map (·.itemKey)) set.runItemSetDigest first.attemptNo first.fence reports
      basis.runId = .ok target ∧ ⟨entry.itemKey, entry.effective⟩ ∈ target.items

/-- The last retry reported every item. -/
def LastComplete (reports : List VerifiedAttemptResolutionSet) (set : RunItemResolutionSet) :
    Prop := ∃ last ∈ reports.getLast?, last.Complete (set.entries.map (·.itemKey))

section
variable {attempts : List Attempt} {reports : List VerifiedAttemptResolutionSet}
  {closure : Option Digest} {expected : List RunItemKey} {target last : VerifiedAttemptResolutionSet}
  {a : Attempt} {itemSetDigest : Digest} {runId : Str} {no fence : ℤ}

theorem FactOf.not_prestart {o : OriginalItemResolution} (h : FactOf a o) :
    o.sourceKind ≠ .prestartCancel := by
  intro hk
  have hnone := o.prestart_iff.1.mp hk
  rw [h.id] at hnone
  cases hnone

/-- An unknown attempt has no evidence, so each of its facts is that it is unknown. -/
theorem FactOf.unknown {o : OriginalItemResolution} (h : FactOf a o)
    (hstate : a.state.executionFact = some .attemptUnknown) :
    o.executionFact = .attemptUnknown := by
  have hunknown : a.state = .attemptUnknown := by
    cases hs : a.state <;> simp [AttemptState.executionFact, hs] at hstate ⊢
  cases hk : o.sourceKind with
  | prestartCancel => exact absurd hk h.not_prestart
  | attemptTerminalFallback =>
    have hfact := h.fallback hk
    rw [hstate] at hfact
    exact (Option.some.inj hfact).symm
  | attemptResult =>
    have hsource := o.source_accepted
    simp only [OriginalItemResolution.Fields.validateSource, hk, then_eq_ok,
      requireSomeDigest_eq_ok] at hsource
    obtain ⟨root, hroot⟩ := Option.isSome_iff_exists.mp hsource.2.2.2
    have hevidence := h.evidence root hroot
    rw [Attempt.evidence_of_unknown hunknown] at hevidence
    cases hevidence

/-- The last report is that of the last attempt. -/
theorem last_reported (h : List.Forall₂ ReportOf attempts.tail reports)
    (hlast : reports.getLast? = some last) :
    ∃ a, attempts.getLast? = some a ∧ ReportOf a last := by
  obtain ⟨a, ha, hreport⟩ := forall₂_getLast h hlast
  rw [List.getLast?_tail] at ha
  split at ha
  · cases ha
  · exact ⟨a, ha, hreport⟩

/-- The selection returns the last attempt of the chain if that one is complete, and otherwise an
earlier one. -/
theorem select_last (h : selectLatestAuthorizedCompleteAttempt expected itemSetDigest no fence
      reports runId = .ok target) (hlast : reports.getLast? = some last) :
    target = last ∧ last.Complete expected ∨
      target.attemptNo < last.attemptNo ∧ ¬ last.Complete expected := by
  obtain ⟨-, hchain, hchosen⟩ := select_eq_ok.mp h
  obtain ⟨hcomplete, earlier, later, rfl, hlater⟩ := getLast_filter_eq_some hchosen
  rw [List.getLast?_append, List.getLast?_cons, Option.some_or, Option.some.injEq] at hlast
  cases hl : later.getLast? with
  | none =>
    rw [hl, Option.getD_none] at hlast
    subst hlast
    exact Or.inl ⟨rfl, of_decide_eq_true hcomplete⟩
  | some b =>
    rw [hl, Option.getD_some] at hlast
    subst hlast
    obtain ⟨i, hi⟩ := List.mem_iff_getElem?.mp (List.mem_of_getLast? hl)
    have htarget := hchain.numbered earlier.length target (by simp)
    have hno := hchain.numbered (earlier.length + (i + 1)) b (by
      rw [List.getElem?_append_right (Nat.le_add_right _ _), Nat.add_sub_cancel_left,
        List.getElem?_cons_succ]
      exact hi)
    refine Or.inr ⟨?_, of_decide_eq_false (hlater b (List.mem_of_getLast? hl))⟩
    omega

end

section
variable {attempts : List Attempt} {reports : List VerifiedAttemptResolutionSet}
  {closure : Option Digest} {entry : RunItemResolution}

namespace Drawn

/-- A Run that closes an unknown attempt ended with one. -/
theorem last_unknown (h : Drawn attempts reports closure basis set)
    (hk : basis.terminalInputKind = .unknownAdjudication) :
    ∃ last, attempts.getLast? = some last ∧
      last.state.executionFact = some .attemptUnknown := by
  have hb := basis.inputKind_accepted
  simp only [RunFinalizationBasis.Fields.validateInputKind, hk, then_eq_ok,
    RunFinalizationBasis.validateUnknownAdjudication_eq_ok] at hb
  have hended := h.ended
  rw [hb.2.1] at hended
  obtain ⟨last, hlast, hfact⟩ := Option.bind_eq_some_iff.mp hended.symm
  exact ⟨last, hlast, hfact⟩

/-- A basis that closes a Run before its start has no attempts behind it. -/
theorem attempts_nil (h : Drawn attempts reports closure basis set)
    (hk : basis.terminalInputKind = .prestartCancel) : attempts = [] := by
  have hb := basis.inputKind_accepted
  simp only [RunFinalizationBasis.Fields.validateInputKind, hk,
    RunFinalizationBasis.Fields.validatePrestartCancel, then_eq_ok, forbidPresent_eq_ok,
    List.forall_mem_cons] at hb
  have hnone : basis.finalAttemptId = none := by
    simpa using hb.1.2.2.1
  rw [h.final.1, Option.map_eq_none_iff, List.getLast?_eq_none_iff] at hnone
  exact hnone

/-- A retried entry names the final attempt exactly when the last retry reported every item. -/
theorem retried_iff (h : Drawn attempts reports closure basis set) (hentry : entry ∈ set.entries)
    (hk : entry.effective.sourceKind = .authorizedRetry) :
    (entry.effective.attemptId = basis.finalAttemptId ∧
      entry.effective.attemptNo = basis.finalAttemptNo ∧
      entry.effective.attemptFence = basis.finalAttemptFence) ↔ LastComplete reports set := by
  obtain ⟨first, -, target, hselect, hitem⟩ := h.retried entry hentry hk
  obtain ⟨hid, hno, hfence⟩ := VerifiedAttemptResolutionSet.item_identity hitem
  simp only at hid hno hfence
  cases hlast : reports.getLast? with
  | none =>
    rw [List.getLast?_eq_none_iff.mp hlast] at hselect
    obtain ⟨-, -, hchosen⟩ := select_eq_ok.mp hselect
    cases hchosen
  | some last =>
    obtain ⟨a, ha, hreport⟩ := last_reported h.reported hlast
    have hfinal := h.final
    simp only [ha, Option.map_some] at hfinal
    rw [hid, hno, hfence, hfinal.1, hfinal.2.1, hfinal.2.2, ← hreport.id, ← hreport.no,
      ← hreport.fence]
    simp only [LastComplete, hlast, Option.mem_def, Option.some.injEq, exists_eq_left']
    rcases select_last hselect hlast with ⟨rfl, hcomplete⟩ | ⟨hearlier, hincomplete⟩
    · exact ⟨fun _ => hcomplete, fun _ => ⟨rfl, rfl, rfl⟩⟩
    · refine ⟨fun hsame => ?_, fun hcomplete => absurd hcomplete hincomplete⟩
      have hno := hsame.2.1
      omega

/-- Every original of a Run that started names its first attempt. -/
theorem started (h : Drawn attempts reports closure basis set) (hentry : entry ∈ set.entries)
    (hk : entry.original.sourceKind ≠ .prestartCancel) :
    entry.original.attemptId = basis.originalAttemptId ∧
      entry.original.attemptFence = basis.originalAttemptFence := by
  have horiginal := h.original
  cases hhead : attempts.head? with
  | none => exact absurd (h.never (List.head?_eq_none_iff.mp hhead) entry hentry).1 hk
  | some first =>
    have hfact := h.first first hhead entry hentry
    rw [horiginal.1, horiginal.2, hhead]
    exact ⟨hfact.id, hfact.fence⟩

/-- An unknown attempt that was the only one leaves every item an unknown lineage. -/
theorem unknown_of_single (h : Drawn attempts reports closure basis set)
    (hk : basis.terminalInputKind = .unknownAdjudication) (hone : attempts.length ≤ 1)
    (hentry : entry ∈ set.entries) : entry.aggregationClass = .unknownLineage := by
  obtain ⟨last, hlast, hstate⟩ := h.last_unknown hk
  cases attempts with
  | nil => cases hlast
  | cons first rest =>
    obtain rfl : rest = [] := by simpa using hone
    obtain rfl : first = last := by simpa using hlast
    have hfact := h.first first rfl entry hentry
    exact entry.unknownLineage_of_original (hfact.unknown hstate)

end Drawn
end

/-- The basis with the digests of another set. -/
def rebound (basis : RunFinalizationBasis) (s o e : Digest) : RunFinalizationBasis where
  toFields := { basis.toFields with
    itemResolutionSetDigest := s
    originalResolutionSetDigest := o
    effectiveResolutionSetDigest := e }
  accepted := basis.accepted

/-- Whatever attempts a basis points at, it closes every set of its Run with its outcome. -/
theorem rebound_accepted (basis : RunFinalizationBasis) (hrun : basis.runId = set.runId)
    (hbatch : basis.batchId = set.batchId)
    (hversion : basis.sourceRunVersion = set.sourceRunVersion)
    (houtcome : basis.outcome = set.auditOutcome) (hs : set.resolutionSetDigest = .ok s)
    (ho : set.originalResolutionSetDigest = .ok o)
    (he : set.effectiveResolutionSetDigest = .ok e) : ∃ command : FinalizeRunCommand,
      command.candidateBasis = rebound basis s o e ∧ command.resolutionSet = set := by
  have hcommand : FinalizeRunCommand.Fields.postInit {
      candidateBasis := rebound basis s o e
      resolutionSet := set
      expectedRunVersion := 0
      expectedAttemptVersion := basis.finalAttemptId.map fun _ => 0 } = .ok () := by
    refine FinalizeRunCommand.Fields.postInit_eq_ok.mpr ⟨by simp, ?_, ?_, by simp [rebound]⟩
    · intro version hsome
      obtain ⟨_, -, rfl⟩ := Option.map_eq_some_iff.mp hsome
      simp
    · exact FinalizeRunCommand.Fields.basisMismatch_eq_ok.mpr
        ⟨hrun, hbatch, hversion, hs, ho, he, houtcome⟩
  exact ⟨⟨_, hcommand⟩, rfl, rfl⟩

/-- A basis and a set drawn up from one Run tell one story exactly when the last retry, if a fact was
retried, reported every item, and an item keeps the lineage of the retry that an adjudication
closed. -/
theorem one_story_iff (command : FinalizeRunCommand) (attempts : List Attempt)
    (reports : List VerifiedAttemptResolutionSet) (closure : Option Digest)
    (h : Drawn attempts reports closure command.candidateBasis command.resolutionSet) :
    OneStory command.candidateBasis command.resolutionSet ↔
      ((∃ entry ∈ command.resolutionSet.entries,
          entry.effective.sourceKind = .authorizedRetry) →
        LastComplete reports command.resolutionSet) ∧
      (command.candidateBasis.terminalInputKind = .unknownAdjudication → 1 < attempts.length →
        ∃ entry ∈ command.resolutionSet.entries, entry.unknownLineageDigest.isSome) := by
  constructor
  · intro hstory
    refine ⟨?_, fun hk _ => ?_⟩
    · rintro ⟨entry, hentry, hretry⟩
      exact (h.retried_iff hentry hretry).mp (hstory.retried entry hentry hretry)
    · obtain ⟨entry, hentry, hclass⟩ := hstory.unknown hk
      exact ⟨entry, hentry, entry.unknownLineage_iff.mp hclass⟩
  · rintro ⟨hlast, hlineage⟩
    refine ⟨fun entry hentry hk => ?_, fun entry hentry hk => h.started hentry hk,
      fun hk entry hentry => ?_, fun hk => ?_⟩
    · exact (h.retried_iff hentry hk).mpr (hlast ⟨entry, hentry, hk⟩)
    · have hprestart := h.never (h.attempts_nil hk) entry hentry
      exact ⟨hprestart.1, hprestart.2.trans h.closed.symm⟩
    · by_cases hone : attempts.length ≤ 1
      · obtain ⟨entry, hentry⟩ :=
          List.exists_mem_of_ne_nil _ command.resolutionSet.entries_ne_nil
        exact ⟨entry, hentry, h.unknown_of_single hk hone hentry⟩
      · obtain ⟨entry, hentry, hsome⟩ := hlineage hk (by omega)
        exact ⟨entry, hentry, entry.unknownLineage_iff.mpr hsome⟩

/-- What each retry of the Run that lost its first attempt consumed. -/
def platformProvenance (source : Str) (no : ℤ) (accepted : RetryProvenance.Fields.postInit
    ⟨"intent-1", Digest.zero, source, no, no, .policy Run.platformAuthority⟩ = .ok ()) :
    RetryProvenance := ⟨_, accepted⟩

/-- The first retry was lost as well. -/
def lostRetry : Attempt where
  toFields := { Run.lostAttempt.toFields with
    id := "attempt-2"
    attemptNo := 2
    fence := 2
    retryProvenance := some (platformProvenance "attempt-1" 1 (by decide)) }
  accepted := by decide

/-- The second retry passed. -/
def passedRetry : Attempt where
  toFields := { Run.lostAttempt.toFields with
    id := "attempt-3"
    attemptNo := 3
    fence := 3
    evidence := some { Run.lostManifest with outcome := .passed }
    state := .passed
    retryProvenance := some (platformProvenance "attempt-2" 2 (by decide)) }
  accepted := by decide

def emptySecond : VerifiedAttemptResolutionSet where
  attemptId := "attempt-2"
  attemptNo := 2
  attemptFence := 2
  attemptItemSetDigest := Digest.zero
  items := []
  accepted := rfl

def wholeThird : VerifiedAttemptResolutionSet :=
  thirdAttempt [⟨firstItem, launderedItem.effective⟩] rfl

theorem drawn_third : Drawn [Run.lostAttempt, lostRetry, passedRetry] [emptySecond, wholeThird] none
    (rebound (closingBasis (Or.inr (Or.inr rfl)) Digest.zero Digest.zero Digest.zero) s o e)
    (oneRunSet launderedItem) where
  original := ⟨rfl, rfl⟩
  final := ⟨rfl, rfl, rfl⟩
  ended := rfl
  closed := rfl
  reported := .cons ⟨rfl, rfl, rfl⟩ (.cons ⟨rfl, rfl, rfl⟩ .nil)
  never h := by cases h
  first := by
    rintro first hfirst entry hentry
    obtain rfl : Run.lostAttempt = first := Option.some.inj hfirst
    obtain rfl : entry = launderedItem := List.mem_singleton.mp hentry
    exact ⟨rfl, rfl, rfl, (fun root hroot => by cases hroot), fun _ => rfl⟩
  retried := by
    rintro entry hentry -
    obtain rfl : entry = launderedItem := List.mem_singleton.mp hentry
    exact ⟨Run.lostAttempt, rfl, wholeThird, rfl, List.mem_singleton.mpr rfl⟩

/-- The lost first retry reported nothing, the second one everything. -/
theorem one_story_iff_third : ∃ command : FinalizeRunCommand,
    command.resolutionSet = oneRunSet launderedItem ∧
      OneStory command.candidateBasis command.resolutionSet := by
  have hr : Sampled launderedItem := Or.inr (Or.inr rfl)
  obtain ⟨s, hs⟩ := setDigest_ok hr
  obtain ⟨o, ho⟩ := originalDigest_ok hr
  obtain ⟨e, he⟩ := effectiveDigest_ok hr
  obtain ⟨command, hbasis, hset⟩ := rebound_accepted
    (closingBasis hr Digest.zero Digest.zero Digest.zero) rfl rfl rfl rfl hs ho he
  refine ⟨command, hset, (one_story_iff command [Run.lostAttempt, lostRetry, passedRetry]
    [emptySecond, wholeThird] none (by rw [hbasis, hset]; exact drawn_third)).mpr ⟨fun _ => ?_, ?_⟩⟩
  · rw [hset]
    exact ⟨wholeThird, rfl, by decide⟩
  · rw [hbasis]
    rintro ⟨⟩

/-- A Run closed on its first attempt, which passed. -/
def firstPassed : RunFinalizationBasis where
  toFields := { closing retriedItem Digest.zero Digest.zero Digest.zero with
    finalAttemptId := some "attempt-1"
    finalAttemptNo := some 1
    finalAttemptFence := some 1 }
  accepted := by decide

/-- It is accepted with an item that only the second attempt passed. -/
theorem stitched : ∃ command : FinalizeRunCommand,
    command.candidateBasis.finalAttemptId = some (.text "attempt-1") ∧
      (∃ entry ∈ command.resolutionSet.entries, entry.effective.sourceKind = .authorizedRetry ∧
        entry.effective.attemptId = some (.text "attempt-2")) ∧
      ¬ OneStory command.candidateBasis command.resolutionSet := by
  have hr : Sampled retriedItem := Or.inl rfl
  obtain ⟨s, hs⟩ := setDigest_ok hr
  obtain ⟨o, ho⟩ := originalDigest_ok hr
  obtain ⟨e, he⟩ := effectiveDigest_ok hr
  obtain ⟨command, hbasis, hset⟩ := rebound_accepted firstPassed rfl rfl rfl (by decide)
    hs ho he
  refine ⟨command, by rw [hbasis]; rfl, ⟨retriedItem, by simp [hset, oneRunSet], rfl, rfl⟩, ?_⟩
  intro h
  have hid := (h.retried retriedItem (by simp [hset, oneRunSet]) rfl).1
  rw [hbasis] at hid
  simp [rebound, firstPassed, retriedItem] at hid

end QaRunner
