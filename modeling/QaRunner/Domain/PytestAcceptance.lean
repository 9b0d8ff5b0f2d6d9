import QaRunner.Domain.PytestExecutionResult
import Mathlib.Data.List.Count

/-! Which results of a sandbox the pytest adapter answers, and the node ids for which an error of a
value object leaves it instead. -/
namespace QaRunner
open Guarded

/-- A raw case whose fields pass their own checks, and the node id it names. -/
def Names (raw : RawJson) (nodeid : String) : Prop :=
  ∃ fields outcome duration message, raw = .dict fields ∧
    (RawJson.get fields "stable_case_id").bind RawJson.nonemptyText = some nodeid ∧
    (RawJson.get fields "outcome").bind CaseOutcome.ofValue = some outcome ∧
    (RawJson.get fields "duration_ms").bind RawJson.nonnegativeInt = some duration ∧
    ((RawJson.get fields "message").getD .null).optionalText = some message

/-- The file or the node part of a node id is blank. -/
def BlankPart (nodeid : String) : Prop :=
  isBlank (pytestNodeidParts nodeid).1 = true ∨ isBlank (pytestNodeidParts nodeid).2 = true

instance (nodeid : String) : Decidable (BlankPart nodeid) := inferInstanceAs (Decidable (_ ∨ _))

/-- The only failures are rejections. -/
def Rejecting {α : Type} (x : PytestResult α) : Prop :=
  ∀ e, x = .error e → ∃ reason, e = .rejected reason

section
variable {α β : Type} {x : PytestResult α} {f : α → PytestResult β} {o : Option α} {reason : String}

theorem Rejecting.bind (h : Rejecting x) (hf : ∀ a, Rejecting (f a)) : Rejecting (x >>= f) := by
  intro e he
  cases hx : x with
  | error e' =>
    rw [hx] at he
    cases he
    exact h _ hx
  | ok a =>
    rw [hx] at he
    exact hf a e he

theorem rejecting_need : Rejecting (need o (.rejected reason)) := by
  intro e he
  cases o with
  | none => cases he; exact ⟨reason, rfl⟩
  | some a => cases he

theorem rejecting_pure {a : α} : Rejecting (pure a) := by
  intro e he
  cases he

end

section
variable {repr : RawJson → String} {raw : RawJson} {raws : List RawJson} {nodeid : String}
  {c : CaseFields}

theorem readRawCase_rejecting (raw : RawJson) : Rejecting (readRawCase repr raw) := by
  cases raw with
  | dict fields =>
    refine rejecting_need.bind fun _ => rejecting_need.bind fun _ => rejecting_need.bind fun _ => ?_
    refine rejecting_need.bind fun _ => rejecting_need.bind fun _ => rejecting_need.bind fun _ => ?_
    exact rejecting_need.bind fun _ => rejecting_pure
  | _ =>
    intro e he
    cases he
    exact ⟨_, rfl⟩

theorem nonemptyText_some {v : RawJson} {s : String} (h : v.nonemptyText = some s) :
    isBlank s = false := by
  cases v with
  | str t =>
    rw [RawJson.nonemptyText] at h
    split at h
    · cases h
    · next hblank =>
      cases h
      simpa using hblank
  | _ => cases h

theorem nonnegativeInt_some {v : RawJson} {n : ℤ} (h : v.nonnegativeInt = some n) : 0 ≤ n := by
  cases v with
  | int m =>
    rw [RawJson.nonnegativeInt] at h
    split at h
    · cases h
    · next hle =>
      cases h
      exact not_lt.mp hle
  | _ => cases h

theorem Names.nonblank (h : Names raw nodeid) : isBlank nodeid = false := by
  obtain ⟨fields, -, -, -, -, hid, -⟩ := h
  obtain ⟨_, -, hid⟩ := Option.bind_eq_some_iff.mp hid
  exact nonemptyText_some hid

theorem Names.unique {other : String} (h : Names raw nodeid) (h' : Names raw other) :
    nodeid = other := by
  obtain ⟨_, _, _, _, hraw, hid, -⟩ := h
  obtain ⟨_, _, _, _, hraw', hid', -⟩ := h'
  cases hraw.symm.trans hraw'
  exact Option.some.inj (hid.symm.trans hid')

theorem names_of_readRawCase (h : readRawCase repr raw = .ok c) :
    Names raw c.stableCaseId ∧ 0 ≤ c.durationMs := by
  cases raw with
  | dict fields =>
    simp only [readRawCase, rawField, bind_eq_ok, need_eq_ok, pure_eq_ok] at h
    obtain ⟨idValue, hid, outcomeValue, houtcome, durationValue, hduration, outcome, houtcome',
      id, hid', duration, hduration', message, hmessage, rfl⟩ := h
    refine ⟨⟨fields, outcome, duration, message, rfl, ?_, ?_, ?_, hmessage⟩,
      nonnegativeInt_some hduration'⟩
    · rw [hid]
      exact hid'
    · rw [houtcome]
      exact houtcome'
    · rw [hduration]
      exact hduration'
  | _ => cases h

theorem readRawCase_of_names (h : Names raw nodeid) :
    ∃ c, readRawCase repr raw = .ok c ∧ c.stableCaseId = nodeid := by
  obtain ⟨fields, outcome, duration, message, rfl, hid, houtcome, hduration, hmessage⟩ := h
  obtain ⟨idValue, hid, hid'⟩ := Option.bind_eq_some_iff.mp hid
  obtain ⟨outcomeValue, houtcome, houtcome'⟩ := Option.bind_eq_some_iff.mp houtcome
  obtain ⟨durationValue, hduration, hduration'⟩ := Option.bind_eq_some_iff.mp hduration
  refine ⟨⟨nodeid, outcome, duration, message⟩, ?_, rfl⟩
  simp only [readRawCase, rawField, bind_eq_ok, need_eq_ok, pure_eq_ok]
  exact ⟨idValue, hid, outcomeValue, houtcome, durationValue, hduration, outcome, houtcome',
    nodeid, hid', duration, hduration', message, hmessage, rfl⟩

/-- A node id has a locator unless it or one of its parts is blank. -/
theorem pytestNodeidLocator_cases (hblank : isBlank nodeid = false) :
    (BlankPart nodeid ∧ pytestNodeidLocator nodeid =
      .error (.domainValidation "framework_locator" "parts" "empty_id")) ∨
    (¬ BlankPart nodeid ∧ ∃ haccepted, pytestNodeidLocator nodeid =
      .ok ⟨pytestNodeidFields nodeid, haccepted⟩) := by
  have hnew : pytestNodeidLocator nodeid = FrameworkLocator.new (pytestNodeidFields nodeid) := by
    rw [pytestNodeidLocator, invalidIf, raiseIf_of_not (by simp [hblank])]
    rfl
  have hnames : ∀ part ∈ (pytestNodeidFields nodeid).parts, isBlank part.1 = false := by
    simp only [pytestNodeidFields, List.forall_mem_cons]
    exact ⟨by decide, by decide, by simp⟩
  have hcases := FrameworkLocator.new_cases (l := pytestNodeidFields nodeid)
    (by decide : isBlank "qep.pytest-locator.v1" = false)
    (by decide : isBlank "pytest_nodeid" = false) (by simp [pytestNodeidFields]) hnames
    (by simp [pytestNodeidFields])
  rw [← hnew] at hcases
  simpa [pytestNodeidFields, BlankPart] using hcases

/-- What a raw case is parsed to: it names a node id with a blank part and a foreign error leaves
the parser, or it names another one and is a result, or it is rejected. -/
theorem parseRawCase_cases (repr : RawJson → String) (raw : RawJson) :
    (∃ nodeid, Names raw nodeid ∧ BlankPart nodeid ∧ parseRawCase repr raw =
      .error (.domain (.domainValidation "framework_locator" "parts" "empty_id"))) ∨
    (∃ result, Names raw result.stableCaseId ∧ ¬ BlankPart result.stableCaseId ∧
      parseRawCase repr raw = .ok result) ∨
    ((∀ nodeid, ¬ Names raw nodeid) ∧
      ∃ reason, parseRawCase repr raw = .error (.rejected reason)) := by
  cases hread : readRawCase repr raw with
  | error e =>
    right
    right
    obtain ⟨reason, rfl⟩ := readRawCase_rejecting raw e hread
    refine ⟨fun nodeid hnames => ?_, reason, ?_⟩
    · obtain ⟨c, hc, -⟩ := readRawCase_of_names hnames
      cases hread.symm.trans hc
    · rw [parseRawCase, hread]
      rfl
  | ok c =>
    obtain ⟨hnames, hduration⟩ := names_of_readRawCase hread
    rcases pytestNodeidLocator_cases hnames.nonblank with ⟨hblank, hlocator⟩ |
      ⟨hblank, haccepted, hlocator⟩
    · left
      refine ⟨c.stableCaseId, hnames, hblank, ?_⟩
      rw [parseRawCase, hread, ok_bind, hlocator]
      rfl
    · right
      left
      have hresult : ValidatedCaseResult.Fields.postInit ⟨c.stableCaseId,
          ⟨pytestNodeidFields c.stableCaseId, haccepted⟩, c.outcome, c.durationMs, c.message⟩ =
            .ok () := by
        simp only [ValidatedCaseResult.Fields.postInit, then_eq_ok, invalidIf_eq_ok]
        exact ⟨by simp [hnames.nonblank], not_lt.mpr hduration⟩
      refine ⟨⟨_, hresult⟩, hnames, hblank, ?_⟩
      rw [parseRawCase, hread, ok_bind, hlocator, ValidatedCaseResult.new]
      exact congrArg domain (construct_of_ok hresult)

/-- The cases of a tally are distinct and counted by their outcomes. -/
structure CaseTally.Counted (tally : CaseTally) : Prop where
  seen : tally.seenIds = tally.cases.map (·.stableCaseId)
  distinct : tally.seenIds.Nodup
  passed : tally.passed = tally.cases.countP (·.outcome = .passed)
  skipped : tally.skipped = tally.cases.countP (·.outcome = .skipped)
  failed : tally.failed =
    tally.cases.countP fun c => c.outcome = .failed ∨ c.outcome = .error

theorem CaseTally.counted_empty : CaseTally.empty.Counted :=
  ⟨rfl, List.nodup_nil, rfl, rfl, rfl⟩

theorem CaseTally.Counted.add {tally : CaseTally} (h : tally.Counted) {result : ValidatedCaseResult}
    (hnew : result.stableCaseId ∉ tally.seenIds) : (tally.add result).Counted where
  seen := by simp [CaseTally.add, h.seen]
  distinct := by
    rw [CaseTally.add, List.nodup_append]
    refine ⟨h.distinct, List.nodup_singleton _, ?_⟩
    rintro id hid _ hresult rfl
    rw [List.mem_singleton.mp hresult] at hid
    exact hnew hid
  passed := by
    simp only [CaseTally.add, List.countP_append, h.passed]
    cases hout : result.outcome <;> simp [hout]
  skipped := by
    simp only [CaseTally.add, List.countP_append, h.skipped]
    cases hout : result.outcome <;> simp [hout]
  failed := by
    simp only [CaseTally.add, List.countP_append, h.failed]
    cases hout : result.outcome <;> simp [hout]

/-- A case that names a node id with a blank part stands after cases that name node ids of their
own, none of them taken before. -/
def EscapesAfter (seen : List String) (raws : List RawJson) : Prop :=
  ∃ earlier raw later ids nodeid, raws = earlier ++ raw :: later ∧
    List.Forall₂ Names earlier ids ∧ (seen ++ ids).Nodup ∧ Names raw nodeid ∧ BlankPart nodeid

theorem not_escapesAfter_nil (seen : List String) : ¬ EscapesAfter seen [] := by
  rintro ⟨earlier, raw, later, -, -, h, -⟩
  cases earlier <;> cases h

theorem escapesAfter_cons {seen : List String} : EscapesAfter seen (raw :: raws) ↔
    ∃ nodeid, Names raw nodeid ∧
      ((seen.Nodup ∧ BlankPart nodeid) ∨ EscapesAfter (seen ++ [nodeid]) raws) := by
  constructor
  · rintro ⟨earlier, raw', later, ids, nodeid, heq, hearlier, hdistinct, hnames, hblank⟩
    cases earlier with
    | nil =>
      cases heq
      cases hearlier
      exact ⟨nodeid, hnames, Or.inl ⟨by simpa using hdistinct, hblank⟩⟩
    | cons first earlier =>
      cases heq
      cases hearlier with
      | cons hfirst hearlier =>
        refine ⟨_, hfirst, Or.inr ⟨earlier, raw', later, _, nodeid, rfl, hearlier, ?_, hnames,
          hblank⟩⟩
        rwa [List.append_assoc, List.singleton_append]
  · rintro ⟨nodeid, hnames, ⟨hdistinct, hblank⟩ | ⟨earlier, raw', later, ids, other, rfl, hearlier,
      hdistinct, hother, hblank⟩⟩
    · exact ⟨[], raw, raws, [], nodeid, rfl, .nil, by simpa using hdistinct, hnames, hblank⟩
    · refine ⟨raw :: earlier, raw', later, nodeid :: ids, other, rfl, .cons hnames hearlier, ?_,
        hother, hblank⟩
      rwa [List.append_assoc, List.singleton_append] at hdistinct

/-- A foreign error leaves the loop exactly when such a case is reached. -/
theorem acceptRawCases_domain_iff {tally : CaseTally} (h : tally.Counted) :
    (∃ e, acceptRawCases repr (parseRawCase repr) tally raws = .error (.domain e)) ↔
      EscapesAfter tally.seenIds raws := by
  induction raws generalizing tally with
  | nil =>
    refine iff_of_false ?_ (not_escapesAfter_nil _)
    rintro ⟨e, he⟩
    cases he
  | cons raw raws ih =>
    rw [escapesAfter_cons, acceptRawCases]
    rcases parseRawCase_cases repr raw with ⟨nodeid, hnames, hblank, hparse⟩ |
      ⟨result, hnames, hblank, hparse⟩ | ⟨hnone, reason, hparse⟩
    · rw [hparse]
      exact iff_of_true ⟨_, rfl⟩ ⟨nodeid, hnames, Or.inl ⟨h.distinct, hblank⟩⟩
    · rw [hparse, ok_bind]
      have hsame : (∃ nodeid, Names raw nodeid ∧ ((tally.seenIds.Nodup ∧ BlankPart nodeid) ∨
          EscapesAfter (tally.seenIds ++ [nodeid]) raws)) ↔
          EscapesAfter (tally.seenIds ++ [result.stableCaseId]) raws := by
        constructor
        · rintro ⟨nodeid, hnodeid, hescapes⟩
          cases hnames.unique hnodeid
          exact hescapes.resolve_left fun hbad => hblank hbad.2
        · exact fun hescapes => ⟨_, hnames, Or.inr hescapes⟩
      rw [hsame]
      by_cases hseen : result.stableCaseId ∈ tally.seenIds
      · rw [raiseIf, if_pos hseen]
        refine iff_of_false (by rintro ⟨e, he⟩; cases he) ?_
        rintro ⟨-, -, -, ids, -, -, -, hdistinct, -⟩
        have hinitial := (List.nodup_append.mp hdistinct).1
        exact (List.nodup_append.mp hinitial).2.2 _ hseen _ (List.mem_singleton_self _) rfl
      · rw [raiseIf_of_not hseen, ok_bind]
        exact ih (h.add hseen)
    · rw [hparse]
      refine iff_of_false (by rintro ⟨e, he⟩; cases he) ?_
      rintro ⟨nodeid, hnames, -⟩
      exact hnone nodeid hnames

theorem acceptRawCases_ok {parse : RawJson → PytestResult ValidatedCaseResult}
    {tally final : CaseTally} (h : tally.Counted)
    (hok : acceptRawCases repr parse tally raws = .ok final) :
    final.Counted ∧ ∃ results, final.cases = tally.cases ++ results ∧
      List.Forall₂ (fun raw result => parse raw = .ok result) raws results := by
  induction raws generalizing tally with
  | nil =>
    cases hok
    exact ⟨h, [], (List.append_nil _).symm, .nil⟩
  | cons raw raws ih =>
    simp only [acceptRawCases, bind_eq_ok, exists_unit, raiseIf_eq_ok] at hok
    obtain ⟨result, hparse, hnew, hrest⟩ := hok
    obtain ⟨hfinal, results, hcases, hresults⟩ := ih (h.add hnew) hrest
    refine ⟨hfinal, result :: results, ?_, .cons hparse hresults⟩
    rw [hcases, CaseTally.add, List.append_assoc, List.singleton_append]

theorem length_eq_counts (cases : List ValidatedCaseResult) : cases.length =
    cases.countP (·.outcome = .passed) +
      (cases.countP fun c => c.outcome = .failed ∨ c.outcome = .error) +
        cases.countP (·.outcome = .skipped) := by
  induction cases with
  | nil => rfl
  | cons c cases ih =>
    rw [List.length_cons, ih, List.countP_cons, List.countP_cons, List.countP_cons]
    cases hout : c.outcome <;> simp <;> omega

/-- The answer to a list of raw cases: their results in their order, distinct, and the summary that
counts exactly these. -/
structure AnswerTo (repr : RawJson → String) (rawCases : List RawJson) (path : ArtifactPath)
    (digest : Digest) (cases : List ValidatedCaseResult) (summary : ValidatedCaseSummary) :
    Prop where
  ordered : List.Forall₂ (fun raw result => parseRawCase repr raw = .ok result) rawCases cases
  distinct : (cases.map (·.stableCaseId)).Nodup
  expected : summary.expected = cases.length
  total : summary.expected = summary.passed + summary.failed + summary.skipped
  passed : summary.passed = cases.countP (·.outcome = .passed)
  failed : summary.failed = cases.countP fun c => c.outcome = .failed ∨ c.outcome = .error
  skipped : summary.skipped = cases.countP (·.outcome = .skipped)
  complete : summary.notReported = 0 ∧ summary.unexpected = 0
  source : summary.sourceArtifactPath = path ∧ summary.sourceArtifactDigest = digest

/-- The outcome is an answer or a rejection, and no other error. -/
def AnswersOrRejects (repr : RawJson → String) (rawCases : List RawJson) (path : ArtifactPath)
    (digest : Digest) : PytestResult (List ValidatedCaseResult × ValidatedCaseSummary) → Prop
  | .ok answer => AnswerTo repr rawCases path digest answer.1 answer.2
  | .error (.rejected _) => True
  | .error (.domain _) => False

theorem caseSummaryOf_counted {version : String} {path : ArtifactPath} {digest : Digest}
    {tally : CaseTally} (h : tally.Counted) :
    ∃ summary, caseSummaryOf version path digest tally.cases.length tally.passed tally.failed
        tally.skipped = .ok summary ∧ summary.expected = tally.cases.length ∧
      summary.passed = tally.passed ∧ summary.failed = tally.failed ∧
      summary.skipped = tally.skipped ∧
      (summary.notReported = 0 ∧ summary.unexpected = 0) ∧
      summary.sourceArtifactPath = path ∧ summary.sourceArtifactDigest = digest := by
  have haccepted : ValidatedCaseSummary.Fields.postInit ⟨version, path, digest,
      tally.cases.length, tally.passed, tally.failed, tally.skipped, 0, 0⟩ = .ok () := by
    have hlength := length_eq_counts tally.cases
    have hpassed := h.passed
    have hskipped := h.skipped
    have hfailed := h.failed
    simp only [ValidatedCaseSummary.Fields.postInit, then_eq_ok, notReadyIf_eq_ok]
    refine ⟨?_, ?_⟩
    · rintro ⟨count, hcount, hneg⟩
      simp only [List.mem_cons, List.not_mem_nil, or_false] at hcount
      rcases hcount with rfl | rfl | rfl | rfl | rfl | rfl <;> omega
    · omega
  exact ⟨⟨_, haccepted⟩, congrArg domain (construct_of_ok haccepted), rfl, rfl, rfl, rfl,
    ⟨rfl, rfl⟩, rfl, rfl⟩

/-- The adapter answers or rejects every input exactly when no case with a blank file or node part
is reached. -/
theorem accept_total_iff (repr : RawJson → String) (schemaVersion : RawJson)
    (rawCases : List RawJson) (exitCode : ℤ) (path : ArtifactPath) (digest : Digest) :
    AnswersOrRejects repr rawCases path digest
        (acceptPytestExecutionResult repr schemaVersion rawCases exitCode path digest) ↔
      ¬ (schemaVersion.text = some caseResultSchemaVersion ∧ EscapesAfter [] rawCases) := by
  rw [acceptPytestExecutionResult]
  by_cases hschema : schemaVersion.text = some caseResultSchemaVersion
  · rw [raiseIf_of_not (not_not.mpr hschema), ok_bind]
    cases hraws : rawCases with
    | nil =>
      by_cases hcode : exitCode = noTestsCollectedExitCode
      · obtain ⟨summary, hsummary, hexpected, hpassed, hfailed, hskipped, hcomplete, hsource⟩ :
            ∃ summary, caseSummaryOf caseResultSchemaVersion path digest 0 0 0 0 = .ok summary ∧
              _ :=
          caseSummaryOf_counted CaseTally.counted_empty
        rw [List.isEmpty_nil, if_pos rfl, raiseIf_of_not (not_not.mpr hcode), ok_bind, hsummary]
        refine iff_of_true ⟨.nil, List.nodup_nil, hexpected, ?_, hpassed, hfailed, hskipped,
          hcomplete, hsource⟩ fun h => not_escapesAfter_nil [] h.2
        rw [hexpected, hpassed, hfailed, hskipped]
        rfl
      · rw [List.isEmpty_nil, if_pos rfl, raiseIf, if_pos hcode]
        exact iff_of_true trivial fun h => not_escapesAfter_nil [] h.2
    | cons raw raws =>
      rw [← hraws, if_neg (by simp [hraws])]
      have hdomain : (∃ e, acceptRawCases repr (parseRawCase repr) .empty rawCases =
          .error (.domain e)) ↔ EscapesAfter [] rawCases :=
        acceptRawCases_domain_iff CaseTally.counted_empty
      cases haccept : acceptRawCases repr (parseRawCase repr) .empty rawCases with
      | error e =>
        rw [haccept] at hdomain
        cases e with
        | rejected reason =>
          refine iff_of_true trivial fun h => ?_
          obtain ⟨e, he⟩ := hdomain.mpr h.2
          cases he
        | domain e => exact iff_of_false id fun h => h ⟨hschema, hdomain.mp ⟨e, rfl⟩⟩
      | ok tally =>
        obtain ⟨hcounted, results, hcases, hresults⟩ :=
          acceptRawCases_ok CaseTally.counted_empty haccept
        obtain ⟨summary, hsummary, hexpected, hpassed, hfailed, hskipped, hcomplete, hsource⟩ :
            ∃ summary, caseSummaryOf caseResultSchemaVersion path digest _ _ _ _ = .ok summary ∧
              _ :=
          caseSummaryOf_counted hcounted
        rw [ok_bind, hsummary]
        have hsame : tally.cases = results := hcases
        refine iff_of_true ⟨hsame ▸ hresults, hcounted.seen ▸ hcounted.distinct, hexpected, ?_,
          hpassed.trans hcounted.passed, hfailed.trans hcounted.failed,
          hskipped.trans hcounted.skipped, hcomplete, hsource⟩ fun h => ?_
        · have hlength := length_eq_counts tally.cases
          rw [hexpected, hpassed, hfailed, hskipped, hcounted.passed, hcounted.failed,
            hcounted.skipped, hlength]
          push_cast
          rfl
        · obtain ⟨e, he⟩ := hdomain.mpr h.2
          cases haccept.symm.trans he
  · rw [raiseIf, if_pos hschema]
    exact iff_of_true trivial fun h => hschema h.1

end

/-- A passed case whose node id names no file. -/
def filelessCase : RawJson :=
  .dict [("stable_case_id", .str "::test_a"), ("outcome", .str "passed"), ("duration_ms", .int 10),
    ("message", .null)]

/-- A node id that starts with the separator makes the locator's own error leave the adapter. -/
theorem fileless_case_escapes :
    acceptPytestExecutionResult (fun _ => "") (.str caseResultSchemaVersion) [filelessCase] 0
        OnePassed.path Digest.zero =
      .error (.domain (.domainValidation "framework_locator" "parts" "empty_id")) ∧
    ¬ AnswersOrRejects (fun _ => "") [filelessCase] OnePassed.path Digest.zero
      (acceptPytestExecutionResult (fun _ => "") (.str caseResultSchemaVersion) [filelessCase] 0
        OnePassed.path Digest.zero) := by
  have herror : acceptPytestExecutionResult (fun _ => "") (.str caseResultSchemaVersion)
      [filelessCase] 0 OnePassed.path Digest.zero =
        .error (.domain (.domainValidation "framework_locator" "parts" "empty_id")) := by
    decide +kernel
  rw [herror]
  exact ⟨rfl, id⟩

end QaRunner
