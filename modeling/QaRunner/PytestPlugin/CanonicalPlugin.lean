import QaRunner.Domain.PytestExecutionResult
import Mathlib.Algebra.Ring.Nat
import QaRunner.Lib.KeyedFold

/-! The pytest plugin of the sandbox: the reports of a test folded into one case, and which failures
that fold hides. -/
namespace QaRunner
open Guarded

/-- Which of the three flags of a report holds; a plugin's own outcome has none of them. -/
inductive ReportOutcome where
  | passed
  | skipped
  | failed
  | other
  deriving DecidableEq, Repr

/-- One report of a test; the phase is its `when`. -/
structure TestReport (Seconds : Type) where
  nodeid : String
  phase : Option String
  outcome : ReportOutcome
  duration : Option Seconds
  longreprtext : Option String

structure CaseEntry (Seconds : Type) where
  outcome : CaseOutcome
  durationS : Seconds
  message : Option String

/-- What the plugin writes of one case. -/
structure CaseRecord where
  stableCaseId : String
  outcome : CaseOutcome
  durationMs : ℤ
  message : Option String
  deriving DecidableEq

def maxMessageChars : ℕ := 20000

def truncate (message : Option String) : Option String :=
  message.map fun text =>
    if text.length ≤ maxMessageChars then text
    else String.ofList (text.toList.take maxMessageChars) ++ "...[truncated]"

/-- Folds the reports of every test into one entry. -/
abbrev CaseAccumulator (Seconds : Type) := KeyedFold String (CaseEntry Seconds)

section
variable {Seconds : Type}

def TestReport.when (report : TestReport Seconds) : String := report.phase.getD "call"

/-- A failure of the teardown phase. -/
def TestReport.FailsTeardown (report : TestReport Seconds) : Prop :=
  report.outcome = .failed ∧ report.when = "teardown"

instance (report : TestReport Seconds) : Decidable report.FailsTeardown :=
  inferInstanceAs (Decidable (_ ∧ _))

/-- A report that is more than a plain pass. -/
def TestReport.Decides (report : TestReport Seconds) : Prop :=
  report.outcome = .skipped ∨ report.outcome = .failed

instance (report : TestReport Seconds) : Decidable report.Decides :=
  inferInstanceAs (Decidable (_ ∨ _))

/-- What the first report that is more than a pass makes of a case. -/
def TestReport.verdict (report : TestReport Seconds) : CaseOutcome :=
  if report.outcome = .skipped then .skipped
  else if report.when ∈ ["setup", "teardown"] then .error
  else .failed

theorem TestReport.verdict_ne_passed (report : TestReport Seconds) : report.verdict ≠ .passed := by
  unfold verdict
  split
  · decide
  · split <;> decide

theorem TestReport.verdict_of_failsTeardown {report : TestReport Seconds}
    (h : report.FailsTeardown) : report.verdict = .error := by
  simp [verdict, h.1, h.2]

end

section
variable {Seconds : Type} [Zero Seconds] [Add Seconds]

def CaseEntry.new : CaseEntry Seconds := ⟨.passed, 0, none⟩

/-- What one report changes of an entry. -/
def CaseEntry.after (entry : CaseEntry Seconds) (report : TestReport Seconds) : CaseEntry Seconds :=
  let entry := { entry with durationS := entry.durationS + report.duration.getD 0 }
  match report.outcome with
  -- a plain pass never downgrades an already-recorded failure
  | .passed => entry
  | .skipped => if entry.outcome = .passed then { entry with outcome := .skipped } else entry
  | .failed =>
    let escalated := if report.when ∈ ["setup", "teardown"] then .error else .failed
    { entry with
      outcome :=
        if report.when = "teardown" ∨ entry.outcome = .passed then escalated else entry.outcome
      message := entry.message.or (truncate report.longreprtext) }
  | .other => entry

namespace CaseAccumulator

def addReport (acc : CaseAccumulator Seconds) (report : TestReport Seconds) :
    CaseAccumulator Seconds :=
  acc.change report.nodeid .new (·.after report)

/-- The cases in the order their tests were first seen; `millis` rounds a duration. -/
def buildCases (millis : Seconds → ℤ) (acc : CaseAccumulator Seconds) : Result (List CaseRecord) :=
  collect acc.order fun nodeid => do
    let entry ← need (acc.entries nodeid) (.crash .keyError)
    return ⟨nodeid, entry.outcome, millis entry.durationS, entry.message⟩

/-- The cases the plugin writes for a sequence of reports. -/
def casesOf (millis : Seconds → ℤ) (reports : List (TestReport Seconds)) :
    Result (List CaseRecord) :=
  buildCases millis (reports.foldl addReport .empty)

end CaseAccumulator

namespace CaseEntry
variable {entry : CaseEntry Seconds} {report : TestReport Seconds}
  {own : List (TestReport Seconds)}

theorem after_teardown (h : report.FailsTeardown) : (entry.after report).outcome = .error := by
  obtain ⟨hfailed, hwhen⟩ := h
  simp [after, hfailed, hwhen]

/-- Only a failed teardown changes what is not a pass. -/
theorem after_settled (h : entry.outcome ≠ .passed) (hreport : ¬ report.FailsTeardown) :
    (entry.after report).outcome = entry.outcome := by
  cases hout : report.outcome with
  | passed | other => simp [after, hout]
  | skipped => simp [after, hout, h]
  | failed =>
    have hwhen : report.when ≠ "teardown" := fun hwhen => hreport ⟨hout, hwhen⟩
    simp [after, hout, h, hwhen]

theorem after_passed (h : entry.outcome = .passed) (hreport : ¬ report.Decides) :
    (entry.after report).outcome = .passed := by
  cases hout : report.outcome with
  | passed | other => simp [after, hout, h]
  | skipped => exact absurd (Or.inl hout) hreport
  | failed => exact absurd (Or.inr hout) hreport

theorem after_first (h : entry.outcome = .passed) (hreport : report.Decides) :
    (entry.after report).outcome = report.verdict := by
  rcases hreport with hout | hout
  · simp [after, hout, h, TestReport.verdict]
  · simp [after, hout, h, TestReport.verdict]

theorem foldl_settled (h : entry.outcome ≠ .passed) : (own.foldl after entry).outcome =
    if ∃ report ∈ own, report.FailsTeardown then .error else entry.outcome := by
  induction own generalizing entry with
  | nil => simp
  | cons report own ih =>
    rw [List.foldl_cons]
    by_cases hreport : report.FailsTeardown
    · have herror : (entry.after report).outcome = .error := after_teardown hreport
      rw [ih (by rw [herror]; decide), herror, ite_self,
        if_pos ⟨report, List.mem_cons_self, hreport⟩]
    · have hsame := after_settled h hreport
      rw [ih (by rwa [hsame]), hsame]
      simp [hreport]

/-- A failed teardown makes a case an error, and without one its first report that is more than a
pass decides. -/
theorem foldl_fresh (h : entry.outcome = .passed) : (own.foldl after entry).outcome =
    if ∃ report ∈ own, report.FailsTeardown then .error
    else (own.find? (·.Decides)).elim .passed (·.verdict) := by
  induction own generalizing entry with
  | nil => simpa using h
  | cons report own ih =>
    rw [List.foldl_cons]
    by_cases hreport : report.Decides
    · have hfirst := after_first h hreport
      rw [foldl_settled (by rw [hfirst]; exact report.verdict_ne_passed), hfirst,
        List.find?_cons_of_pos (by simpa using hreport), Option.elim_some]
      by_cases hfails : report.FailsTeardown
      · rw [TestReport.verdict_of_failsTeardown hfails, ite_self, ite_self]
      · simp [hfails]
    · have hnot : ¬ report.FailsTeardown := fun hfails => hreport (Or.inr hfails.1)
      rw [ih (after_passed h hreport), List.find?_cons_of_neg (by simpa using hreport)]
      simp [hnot]

end CaseEntry

namespace CaseAccumulator
variable {millis : Seconds → ℤ} {reports : List (TestReport Seconds)} {nodeid : String}

/-- The reports of one test. -/
def own (reports : List (TestReport Seconds)) (nodeid : String) : List (TestReport Seconds) :=
  reports.filter (·.nodeid = nodeid)

/-- The case the reports of one test make. -/
def caseOf (millis : Seconds → ℤ) (reports : List (TestReport Seconds)) (nodeid : String) :
    CaseRecord :=
  let entry := (own reports nodeid).foldl CaseEntry.after .new
  ⟨nodeid, entry.outcome, millis entry.durationS, entry.message⟩

/-- The tests in the order they were first seen. -/
def order (reports : List (TestReport Seconds)) : List String :=
  (KeyedFold.run (·.nodeid) CaseEntry.new CaseEntry.after .empty reports).order

theorem casesOf_eq : casesOf millis reports =
    .ok ((order reports).map (caseOf millis reports)) := by
  have hrun : reports.foldl addReport .empty =
      KeyedFold.run (·.nodeid) CaseEntry.new CaseEntry.after .empty reports := rfl
  rw [casesOf, hrun, buildCases, collect_eq_ok, List.forall₂_map_right_iff]
  refine List.forall₂_same.mpr fun nodeid hmem => ?_
  have hseen : nodeid ∈ reports.map (·.nodeid) := (KeyedFold.order_run.1 nodeid).mp hmem
  obtain ⟨report, hreport, hid⟩ := List.mem_map.mp hseen
  have hown : (reports.filter (·.nodeid = nodeid)).isEmpty = false := by
    rw [List.isEmpty_eq_false_iff_exists_mem]
    exact ⟨report, List.mem_filter.mpr ⟨hreport, by simpa using hid⟩⟩
  simp only [bind_eq_ok, need_eq_ok, pure_eq_ok]
  refine ⟨_, ?_, rfl⟩
  rw [KeyedFold.entries_run, hown]
  rfl

/-- The reports of one test alone are of one test. -/
theorem order_own (h : nodeid ∈ reports.map (·.nodeid)) :
    order (own reports nodeid) = [nodeid] := by
  obtain ⟨hmem, hpairwise⟩ : (∀ k, k ∈ order (own reports nodeid) ↔ _) ∧
    (order (own reports nodeid)).Pairwise _ := KeyedFold.order_run
  have hall : ∀ k, k ∈ order (own reports nodeid) ↔ k = nodeid := by
    intro k
    rw [hmem, own, List.mem_map]
    constructor
    · rintro ⟨report, hreport, rfl⟩
      simpa using (List.mem_filter.mp hreport).2
    · rintro rfl
      obtain ⟨report, hreport, hid⟩ := List.mem_map.mp h
      exact ⟨report, List.mem_filter.mpr ⟨hreport, by simpa using hid⟩, hid⟩
  cases horder : order (own reports nodeid) with
  | nil =>
    have hin := (hall nodeid).mpr rfl
    rw [horder] at hin
    cases hin
  | cons first rest =>
    rw [horder] at hall hpairwise
    have hfirst : first = nodeid := (hall first).mp List.mem_cons_self
    cases rest with
    | nil => rw [hfirst]
    | cons second rest =>
      have hsecond : second = nodeid :=
        (hall second).mp (List.mem_cons_of_mem _ List.mem_cons_self)
      have hlt := (List.pairwise_cons.mp hpairwise).1 second List.mem_cons_self
      rw [hfirst, hsecond] at hlt
      exact absurd hlt (lt_irrefl _)

theorem caseOf_outcome : (caseOf millis reports nodeid).outcome =
    if ∃ report ∈ own reports nodeid, report.FailsTeardown then .error
    else ((own reports nodeid).find? (·.Decides)).elim .passed (·.verdict) :=
  CaseEntry.foldl_fresh rfl

theorem caseOf_own : caseOf millis (own reports nodeid) nodeid = caseOf millis reports nodeid := by
  have hown : own (own reports nodeid) nodeid = own reports nodeid := by simp [own]
  rw [caseOf, hown, caseOf]

theorem map_stableCaseId : ((order reports).map (caseOf millis reports)).map (·.stableCaseId) =
    order reports := by
  rw [List.map_map]
  exact List.map_id _

/-- A case that failed or broke shows in what its reports say, and the other way round. -/
theorem caseOf_fails_iff :
    (caseOf millis reports nodeid).outcome = .failed ∨
        (caseOf millis reports nodeid).outcome = .error ↔
      (∃ report ∈ own reports nodeid, report.FailsTeardown) ∨
        ∃ first, (own reports nodeid).find? (·.Decides) = some first ∧ first.outcome = .failed := by
  rw [caseOf_outcome]
  by_cases hteardown : ∃ report ∈ own reports nodeid, report.FailsTeardown
  · simp [hteardown]
  rw [if_neg hteardown]
  cases hfind : (own reports nodeid).find? (·.Decides) with
  | none => simpa using fun report hreport => not_exists.mp hteardown report ∘ And.intro hreport
  | some first =>
    have hdecides : first.Decides := by simpa using List.find?_some hfind
    rcases hdecides with hout | hout
    · have hverdict : first.verdict = .skipped := if_pos hout
      rw [Option.elim_some, hverdict]
      constructor
      · rintro (h | h) <;> cases h
      · rintro (h | ⟨other, hother, hfailed⟩)
        · exact absurd h hteardown
        · cases hother
          rw [hout] at hfailed
          cases hfailed
    · refine iff_of_true ?_ (Or.inr ⟨first, rfl, hout⟩)
      rw [Option.elim_some, TestReport.verdict, if_neg (by rw [hout]; decide)]
      split
      · exact Or.inr rfl
      · exact Or.inl rfl

/-- One case a test, in the order the tests were first seen, made of its own reports only; failures
are failures or errors, failed teardowns are errors, and without a failure there is none. -/
structure Honest (millis : Seconds → ℤ) (reports : List (TestReport Seconds))
    (cases : List CaseRecord) : Prop where
  seen : ∀ nodeid, nodeid ∈ cases.map (·.stableCaseId) ↔ nodeid ∈ reports.map (·.nodeid)
  ordered : (cases.map (·.stableCaseId)).Pairwise fun a b =>
    (reports.map (·.nodeid)).idxOf a < (reports.map (·.nodeid)).idxOf b
  alone : ∀ record ∈ cases, casesOf millis (own reports record.stableCaseId) = .ok [record]
  failed : ∀ record ∈ cases,
    (∃ report ∈ own reports record.stableCaseId, report.outcome = .failed) →
      record.outcome = .failed ∨ record.outcome = .error
  teardown : ∀ record ∈ cases,
    (∃ report ∈ own reports record.stableCaseId, report.FailsTeardown) → record.outcome = .error
  clean : ∀ record ∈ cases,
    (∀ report ∈ own reports record.stableCaseId, report.outcome ≠ .failed) →
      record.outcome = .passed ∨ record.outcome = .skipped

/-- A test that failed has failed its teardown, or failed before it was skipped. -/
def FailuresShow (reports : List (TestReport Seconds)) : Prop :=
  ∀ report ∈ reports, report.outcome = .failed →
    (∃ other ∈ own reports report.nodeid, other.FailsTeardown) ∨
      ∃ first, (own reports report.nodeid).find? (·.Decides) = some first ∧ first.outcome = .failed

/-- The plugin hides no failure exactly when every test that failed has failed its teardown, or
failed before it was skipped. -/
theorem honest_iff (millis : Seconds → ℤ) (reports : List (TestReport Seconds)) :
    ∃ cases, casesOf millis reports = .ok cases ∧
      (Honest millis reports cases ↔ FailuresShow reports) := by
  obtain ⟨hseen, hordered⟩ : (∀ k, k ∈ order reports ↔ _) ∧ (order reports).Pairwise _ :=
    KeyedFold.order_run
  refine ⟨_, casesOf_eq, fun h report hreport hfailed => ?_, fun h => ?_⟩
  · have hmem : report.nodeid ∈ order reports := (hseen _).mpr (List.mem_map_of_mem hreport)
    apply caseOf_fails_iff.mp
    apply h.failed _ (List.mem_map_of_mem hmem)
    exact ⟨report, List.mem_filter.mpr ⟨hreport, by simp [caseOf]⟩, hfailed⟩
  · constructor
    · rw [map_stableCaseId]
      exact hseen
    · rw [map_stableCaseId]
      exact hordered
    · intro record hrecord
      obtain ⟨nodeid, hmem, rfl⟩ := List.mem_map.mp hrecord
      have horder := order_own ((hseen _).mp hmem)
      rw [casesOf_eq, caseOf, horder, List.map_singleton, caseOf_own, caseOf]
    · rintro record hrecord ⟨report, hown, hfailed⟩
      obtain ⟨nodeid, hmem, rfl⟩ := List.mem_map.mp hrecord
      obtain ⟨hreport, hid⟩ := List.mem_filter.mp hown
      have hnodeid : report.nodeid = nodeid := of_decide_eq_true hid
      have hshow := h report hreport hfailed
      rw [hnodeid] at hshow
      exact caseOf_fails_iff.mpr hshow
    · intro record hrecord hteardown
      obtain ⟨nodeid, hmem, rfl⟩ := List.mem_map.mp hrecord
      rw [caseOf_outcome]
      exact if_pos hteardown
    · intro record hrecord hclean
      obtain ⟨nodeid, hmem, rfl⟩ := List.mem_map.mp hrecord
      have hteardown : ¬ ∃ report ∈ own reports nodeid, report.FailsTeardown := by
        rintro ⟨report, hreport, hfails⟩
        exact hclean report hreport hfails.1
      rw [caseOf_outcome, if_neg hteardown]
      cases hfind : (own reports nodeid).find? (·.Decides) with
      | none => exact Or.inl rfl
      | some first =>
        have hdecides : first.Decides := by simpa using List.find?_some hfind
        have hskipped := hdecides.resolve_right (hclean first (List.mem_of_find?_eq_some hfind))
        exact Or.inr (if_pos hskipped)

end CaseAccumulator

end

namespace CaseAccumulator

/-- A duration of whole seconds in milliseconds. -/
def wholeSeconds (seconds : ℕ) : ℤ := 1000 * seconds

/-- A skipped part of a test, then a failed one. -/
def skippedThenFailed : List (TestReport ℕ) :=
  [⟨"test_a.py::test_a", some "call", .skipped, some 1, none⟩,
    ⟨"test_a.py::test_a", some "call", .failed, some 2, some "assert False"⟩]

/-- The failure is recorded as a skip, with the message of the failure. -/
theorem failure_hidden : casesOf wholeSeconds skippedThenFailed =
      .ok [⟨"test_a.py::test_a", .skipped, 3000, some "assert False"⟩] ∧
    ∀ cases, casesOf wholeSeconds skippedThenFailed = .ok cases →
      ¬ Honest wholeSeconds skippedThenFailed cases := by
  have hcases : casesOf wholeSeconds skippedThenFailed =
      .ok [⟨"test_a.py::test_a", .skipped, 3000, some "assert False"⟩] := by decide
  refine ⟨hcases, fun cases h hhonest => ?_⟩
  cases hcases.symm.trans h
  have hfails := hhonest.failed _ List.mem_cons_self (by decide)
  revert hfails
  decide

end CaseAccumulator

end QaRunner
