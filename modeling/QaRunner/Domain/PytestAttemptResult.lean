import QaRunner.Domain.Evidence

/-! The Worker's classification of one pytest Attempt, the exit facts it reports, and its agreement
with the classification of evidence. -/
namespace QaRunner
open Guarded

inductive PytestAttemptResultClass where
  | passed
  | testFailed
  | infraFailed
  | cancelled
  | unknown
  deriving DecidableEq, Repr

/-- The evidence outcome a classification stands for; an unknown end has none. -/
def PytestAttemptResultClass.outcome : PytestAttemptResultClass → Option EvidenceOutcome
  | .passed => some .passed
  | .testFailed => some .testFailed
  | .infraFailed => some .infraFailed
  | .cancelled => some .cancelled
  | .unknown => none

structure PytestAttemptResult where
  resultClass : PytestAttemptResultClass
  platformExitClass : PlatformExitClass
  exitCode : Option ℤ
  timedOut : Bool
  oom : Bool
  cancelled : Bool
  requiresUnknownObservation : Bool
  deriving DecidableEq

/-- Classify one pytest Attempt from platform process facts and the case summary. -/
def classifyPytestAttemptResult (exitCode : Option ℤ) (timedOut cancelled : Bool)
    (caseSummary : Option ValidatedCaseSummary) (oom : Bool) : PytestAttemptResult :=
  if cancelled then
    ⟨.cancelled, .cancelled, exitCode, timedOut, oom, true, false⟩
  else if timedOut || oom then
    ⟨.infraFailed, .infraFailed, exitCode, timedOut, oom, false, false⟩
  else
    match exitCode with
    | none => ⟨.unknown, .infraFailed, none, false, false, false, true⟩
    | some code =>
      match caseSummary with
      -- the plugin never produced results
      | none => ⟨.infraFailed, .infraFailed, code, false, false, false, false⟩
      | some summary =>
        if 0 < summary.notReported ∨ 0 < summary.unexpected then
          ⟨.unknown, .infraFailed, code, false, false, false, true⟩
        else if code = 0 ∧ summary.failed = 0 then
          ⟨.passed, .completed, code, false, false, false, false⟩
        else if code ≠ 0 ∧ 0 < summary.failed then
          ⟨.testFailed, .completed, code, false, false, false, false⟩
        else if code ≠ 0 ∧ summary.failed = 0 then
          ⟨.infraFailed, .infraFailed, code, false, false, false, false⟩
        else
          ⟨.unknown, .infraFailed, code, false, false, false, true⟩

/-- The platform exit a classification is reported as. -/
def PytestAttemptResultClass.exitClass : PytestAttemptResultClass → PlatformExitClass
  | .cancelled => .cancelled
  | .infraFailed => .infraFailed
  | _ => .completed

def PytestAttemptResult.exitFacts (result : PytestAttemptResult) (sourceEventId : String)
    (pid : Option ℤ) : TrustedExitFacts where
  sourceEventId
  pid
  exitClass := result.resultClass.exitClass
  exitCode := result.exitCode
  signal := none
  oom := result.oom
  timeout := result.timedOut

/-- Map a classification onto platform-owned exit facts; an unknown end has none. -/
def trustedExitFactsFromPytestResult (result : PytestAttemptResult) (sourceEventId : String)
    (pid : Option ℤ) : Result (Option TrustedExitFacts) := do
  invalidIf (isBlank sourceEventId) "trusted_exit_facts" "source_event_id" "invalid"
  invalidIf (∃ n ∈ pid, n ≤ 0) "trusted_exit_facts" "pid" "invalid"
  if result.resultClass = .unknown then
    return none
  return some (result.exitFacts sourceEventId pid)

/-- What the exit code and the case counts of a completed process say together. -/
def Settles (code : ℤ) (summary : ValidatedCaseSummary) : EvidenceOutcome → Prop
  | .passed => code = 0 ∧ summary.failed = 0 ∧ ¬ (0 < summary.notReported ∨ 0 < summary.unexpected)
  | .testFailed =>
    code ≠ 0 ∧ 0 < summary.failed ∧ ¬ (0 < summary.notReported ∨ 0 < summary.unexpected)
  | .infraFailed | .cancelled => False

theorem Settles.ran {code : ℤ} {summary : ValidatedCaseSummary} {outcome : EvidenceOutcome}
    (h : Settles code summary outcome) : outcome = .passed ∨ outcome = .testFailed := by
  cases outcome with
  | passed => exact Or.inl rfl
  | testFailed => exact Or.inr rfl
  | infraFailed | cancelled => cases h

theorem classifyCompleted_eq_ok {exit : TrustedExitFacts}
    {caseSummary : Option ValidatedCaseSummary} {outcome : EvidenceOutcome} :
    classifyCompleted exit caseSummary = .ok outcome ↔
      (∃ pid ∈ exit.pid, 0 < pid) ∧ exit.signal = none ∧ exit.oom = false ∧ exit.timeout = false ∧
        ∃ code summary, exit.exitCode = some code ∧ caseSummary = some summary ∧
          Settles code summary outcome := by
  simp only [classifyCompleted, bind_eq_ok, exists_unit, notReadyIf_eq_ok, need_eq_ok, not_not,
    not_or, Bool.not_eq_true, Option.isSome_eq_false_iff, Option.isNone_iff_eq_none]
  constructor
  · rintro ⟨hpid, ⟨hsignal, hoom, htimeout⟩, code, hcode, summary, hsummary, h⟩
    refine ⟨hpid, hsignal, hoom, htimeout, code, summary, hcode, hsummary, ?_⟩
    split at h
    · next hpassed =>
      cases pure_eq_ok.mp h
      simpa [Settles] using hpassed
    · split at h
      · next hfailed =>
        cases pure_eq_ok.mp h
        simpa [Settles] using hfailed
      · simp [throw_eq_ok] at h
  · rintro ⟨hpid, hsignal, hoom, htimeout, code, summary, hcode, hsummary, h⟩
    refine ⟨hpid, ⟨hsignal, hoom, htimeout⟩, code, hcode, summary, hsummary, ?_⟩
    cases outcome with
    | passed =>
      rw [if_pos (by simpa [Settles] using h)]
      rfl
    | testFailed =>
      have hnot : ¬ (code = 0 ∧ summary.failed = 0 ∧
          ¬ (0 < summary.notReported ∨ 0 < summary.unexpected)) := fun hpassed => h.1 hpassed.1
      rw [if_neg (by simpa using hnot), if_pos (by simpa [Settles] using h)]
      rfl
    | infraFailed | cancelled => cases h

section
variable {exitCode : Option ℤ} {timedOut cancelled oom : Bool}
  {caseSummary : Option ValidatedCaseSummary}

/-- A classification carries the process facts it was made from. -/
theorem classifyPytestAttemptResult_facts :
    let result := classifyPytestAttemptResult exitCode timedOut cancelled caseSummary oom
    result.exitCode = exitCode ∧ result.timedOut = timedOut ∧ result.oom = oom := by
  cases cancelled with
  | true => simp [classifyPytestAttemptResult]
  | false =>
    cases hstopped : timedOut || oom with
    | true => simp [classifyPytestAttemptResult, hstopped]
    | false =>
      obtain ⟨rfl, rfl⟩ := Bool.or_eq_false_iff.mp hstopped
      cases exitCode with
      | none => simp [classifyPytestAttemptResult]
      | some code =>
        cases caseSummary with
        | none => simp [classifyPytestAttemptResult]
        | some summary =>
          simp only [classifyPytestAttemptResult]
          split_ifs <;> simp

/-- What a process that was not stopped is classified as, once its code and its counts are known. -/
theorem classifyPytestAttemptResult_observed {code : ℤ} {summary : ValidatedCaseSummary}
    {outcome : EvidenceOutcome} (hran : outcome = .passed ∨ outcome = .testFailed) :
    (classifyPytestAttemptResult (some code) false false (some summary) false).resultClass.outcome =
        some outcome ↔ Settles code summary outcome := by
  simp only [classifyPytestAttemptResult, Bool.false_or, Bool.false_eq_true, if_false]
  by_cases hincomplete : 0 < summary.notReported ∨ 0 < summary.unexpected
  · rw [if_pos hincomplete]
    rcases hran with rfl | rfl <;> simp [PytestAttemptResultClass.outcome, Settles, hincomplete]
  rw [if_neg hincomplete]
  by_cases hcode : code = 0
  · by_cases hfailed : summary.failed = 0
    · rcases hran with rfl | rfl <;>
        simp [PytestAttemptResultClass.outcome, Settles, hincomplete, hcode, hfailed]
    · rcases hran with rfl | rfl <;>
        simp [PytestAttemptResultClass.outcome, Settles, hcode, hfailed]
  · by_cases hfailed : 0 < summary.failed
    · have hne : summary.failed ≠ 0 := by omega
      rcases hran with rfl | rfl <;>
        simp [PytestAttemptResultClass.outcome, Settles, hincomplete, hcode, hfailed, hne]
    · rcases hran with rfl | rfl <;>
        simp [PytestAttemptResultClass.outcome, Settles, hcode, hfailed]
      all_goals split_ifs <;> simp

/-- A classification says passed or failed exactly when nothing stopped the process and its code and
counts settle it so. -/
theorem classifyPytestAttemptResult_settles {outcome : EvidenceOutcome}
    (hran : outcome = .passed ∨ outcome = .testFailed) :
    (classifyPytestAttemptResult exitCode timedOut cancelled caseSummary oom).resultClass.outcome =
        some outcome ↔
      cancelled = false ∧ timedOut = false ∧ oom = false ∧
        ∃ code summary, exitCode = some code ∧ caseSummary = some summary ∧
          Settles code summary outcome := by
  constructor
  · intro h
    cases cancelled with
    | true =>
      rcases hran with rfl | rfl <;>
        simp [classifyPytestAttemptResult, PytestAttemptResultClass.outcome] at h
    | false =>
      cases hstopped : timedOut || oom with
      | true =>
        rcases hran with rfl | rfl <;>
          simp [classifyPytestAttemptResult, hstopped, PytestAttemptResultClass.outcome] at h
      | false =>
        obtain ⟨rfl, rfl⟩ := Bool.or_eq_false_iff.mp hstopped
        rcases exitCode with _ | code
        · rcases hran with rfl | rfl <;>
            simp [classifyPytestAttemptResult, PytestAttemptResultClass.outcome] at h
        rcases caseSummary with _ | summary
        · rcases hran with rfl | rfl <;>
            simp [classifyPytestAttemptResult, PytestAttemptResultClass.outcome] at h
        exact ⟨rfl, rfl, rfl, code, summary, rfl, rfl,
          (classifyPytestAttemptResult_observed hran).mp h⟩
  · rintro ⟨rfl, rfl, rfl, code, summary, rfl, rfl, h⟩
    exact (classifyPytestAttemptResult_observed hran).mpr h

end

/-- What is reported for a classification. -/
theorem trustedExitFactsFromPytestResult_ok {result : PytestAttemptResult} {sourceEventId : String}
    {pid : ℤ} (hsource : isBlank sourceEventId = false) (hpid : 0 < pid) :
    trustedExitFactsFromPytestResult result sourceEventId (some pid) =
      .ok (if result.resultClass = .unknown then none
        else some (result.exitFacts sourceEventId (some pid))) := by
  have hsource' : ¬ isBlank sourceEventId = true := by simpa using hsource
  have hpid' : ¬ ∃ n ∈ some pid, n ≤ 0 := by
    rintro ⟨n, hn, hle⟩
    cases hn
    omega
  simp only [trustedExitFactsFromPytestResult, invalidIf, raiseIf_of_not hsource',
    raiseIf_of_not hpid', ok_bind]
  split_ifs <;> rfl

/-- The Worker's classification and the classification of evidence agree: a verdict of the Worker is
the verdict on the facts it reports, a cancelled Attempt is cancelled once its stop is proved and
never anything else, an unknown end has no facts, and a verdict on a completed process is the one
the Worker gives. -/
theorem classification_agrees (exitCode : Option ℤ) (timedOut cancelled oom : Bool)
    (caseSummary : Option ValidatedCaseSummary) :
    (∀ (sourceEventId : String) (pid : ℤ), isBlank sourceEventId = false → 0 < pid →
      let result := classifyPytestAttemptResult exitCode timedOut cancelled caseSummary oom
      let facts := trustedExitFactsFromPytestResult result sourceEventId (some pid)
      (∀ outcome, outcome ≠ .cancelled → result.resultClass.outcome = some outcome →
        ∃ exit, facts = .ok (some exit) ∧
          ∀ stop, classifyOutcome exit caseSummary stop = .ok outcome) ∧
      (result.resultClass = .cancelled →
        ∃ exit, facts = .ok (some exit) ∧ ∀ stop outcome,
          classifyOutcome exit caseSummary stop = .ok outcome ↔
            outcome = .cancelled ∧ stop.isSome) ∧
      (result.resultClass = .unknown → facts = .ok none)) ∧
    ∀ exit stop outcome, exit.exitClass = .completed →
      classifyOutcome exit caseSummary stop = .ok outcome →
        some outcome =
          (classifyPytestAttemptResult exit.exitCode false false caseSummary
            false).resultClass.outcome := by
  constructor
  · intro sourceEventId pid hsource hpid result facts
    obtain ⟨hcode, htimedOut, hoom⟩ : result.exitCode = exitCode ∧ result.timedOut = timedOut ∧
        result.oom = oom := classifyPytestAttemptResult_facts
    have hfacts : facts = _ := trustedExitFactsFromPytestResult_ok hsource hpid
    refine ⟨fun outcome hne houtcome => ?_, fun hclass => ?_, fun hclass => ?_⟩
    · have hknown : result.resultClass ≠ .unknown := by
        intro hclass
        rw [hclass] at houtcome
        cases houtcome
      rw [if_neg hknown] at hfacts
      refine ⟨_, hfacts, fun stop => ?_⟩
      cases hclass : result.resultClass with
      | unknown => exact absurd hclass hknown
      | cancelled =>
        rw [hclass] at houtcome
        cases houtcome
        exact absurd rfl hne
      | infraFailed =>
        rw [hclass] at houtcome
        cases houtcome
        simp only [classifyOutcome, PytestAttemptResult.exitFacts, hclass,
          PytestAttemptResultClass.exitClass]
        rfl
      | passed | testFailed =>
        -- settled by the code and the counts on both sides
        have hran : outcome = .passed ∨ outcome = .testFailed := by
          rw [hclass] at houtcome
          cases houtcome
          decide
        obtain ⟨-, rfl, rfl, code, summary, hsome, hsummary, hsettles⟩ :=
          (classifyPytestAttemptResult_settles hran).mp houtcome
        simp only [classifyOutcome, PytestAttemptResult.exitFacts, hclass,
          PytestAttemptResultClass.exitClass]
        exact classifyCompleted_eq_ok.mpr ⟨⟨pid, rfl, hpid⟩, rfl, hoom, htimedOut, code, summary,
          hcode.trans hsome, hsummary, hsettles⟩
    · rw [hclass, if_neg (by decide)] at hfacts
      refine ⟨_, hfacts, fun stop outcome => ?_⟩
      simp only [classifyOutcome, PytestAttemptResult.exitFacts, hclass,
        PytestAttemptResultClass.exitClass, then_eq_ok, notReadyIf_eq_ok, pure_eq_ok]
      rw [Bool.not_eq_true, Option.isNone_eq_false_iff]
      exact ⟨fun h => ⟨h.2.symm, h.1⟩, fun h => ⟨h.2, h.1.symm⟩⟩
    · rw [hclass, if_pos rfl] at hfacts
      exact hfacts
  · intro exit stop outcome hclass h
    rw [classifyOutcome, hclass] at h
    obtain ⟨-, -, -, -, code, summary, hcode, hsummary, hsettles⟩ := classifyCompleted_eq_ok.mp h
    rw [eq_comm, classifyPytestAttemptResult_settles hsettles.ran]
    exact ⟨rfl, rfl, rfl, code, summary, hcode, hsummary, hsettles⟩

namespace OnePassed

def path : ArtifactPath := ⟨⟨"case-results.json"⟩, by decide +kernel⟩

/-- One case, and it passed. -/
def summary : ValidatedCaseSummary where
  schemaVersion := "qep.pytest-case-result.v1"
  sourceArtifactPath := path
  sourceArtifactDigest := Digest.zero
  expected := 1
  passed := 1
  failed := 0
  skipped := 0
  notReported := 0
  unexpected := 0
  accepted := by decide

end OnePassed

theorem classification_agrees_passed :
    ∃ exit, trustedExitFactsFromPytestResult
        (classifyPytestAttemptResult (some 0) false false (some OnePassed.summary) false)
        "event-1" (some 7) = .ok (some exit) ∧
      ∀ stop, classifyOutcome exit (some OnePassed.summary) stop = .ok .passed :=
  ((classification_agrees (some 0) false false false (some OnePassed.summary)).1 "event-1" 7
    (by decide) (by decide)).1 .passed (by decide) (by decide)

end QaRunner
