import QaRunner.Domain.PytestAttemptResult
import QaRunner.Domain.DigestIdentity

/-! Rebuilding evidence is canonical: the order of the artifacts does not matter, a rebuilt manifest
rebuilds to itself, and its root digest pins what it was built from. -/
namespace QaRunner
open Guarded

theorem ArtifactPath.encode_injective : Function.Injective ArtifactPath.encode := by
  rintro ⟨⟨s | _⟩, hs⟩ ⟨⟨t | _⟩, ht⟩ h
  · have htext : s = t := String.toList_injective (Json.utf8_injective h)
    subst htext
    rfl
  · cases ht
  · cases hs
  · cases hs

theorem ArtifactClass.value_inj {c d : ArtifactClass} : c.value = d.value ↔ c = d := by
  cases c <;> cases d <;> decide

theorem PlatformExitClass.value_inj {c d : PlatformExitClass} : c.value = d.value ↔ c = d := by
  cases c <;> cases d <;> decide

theorem EvidenceOutcome.value_inj {o p : EvidenceOutcome} : o.value = p.value ↔ o = p := by
  cases o <;> cases p <;> decide

theorem VerifiedArtifact.payload_norm_inj {a b : VerifiedArtifact}
    (h : a.payload.norm = b.payload.norm) : a = b := by
  replace h := Json.norm_dict_inj h (by simp) (by simp)
  simp only [List.map_cons, List.map_nil, Json.field, norm_str, norm_int, List.cons.injEq,
    Prod.mk.injEq, true_and, and_true, Json.str.injEq, Str.text.injEq,
    Json.int.injEq, ArtifactClass.value_inj, Digest.value_inj] at h
  obtain ⟨⟨⟨⟨_⟩, _⟩, _, _, _⟩, _⟩ := a
  obtain ⟨⟨⟨⟨_⟩, _⟩, _, _, _⟩, _⟩ := b
  obtain ⟨rfl, rfl, rfl, rfl⟩ := h
  rfl

theorem TrustedExitFacts.payload_norm_inj {a b : TrustedExitFacts}
    (h : a.payload.norm = b.payload.norm) : a = b := by
  replace h := Json.norm_dict_inj h (by simp) (by simp)
  simp only [List.map_cons, List.map_nil, Json.field, norm_str, norm_bool, norm_optionalInt,
    List.cons.injEq, Prod.mk.injEq, true_and, and_true, Json.str.injEq, Str.text.injEq,
    Json.bool.injEq, optionalInt_inj, PlatformExitClass.value_inj] at h
  obtain ⟨_, _, _, _, _, _, _⟩ := a
  obtain ⟨_, _, _, _, _, _, _⟩ := b
  obtain ⟨rfl, rfl, rfl, rfl, rfl, rfl, rfl⟩ := h
  rfl

theorem caseSummaryPayload_norm_inj {a b : ValidatedCaseSummary}
    (h : (caseSummaryPayload a).norm = (caseSummaryPayload b).norm) : a = b := by
  replace h := Json.norm_dict_inj h (by simp) (by simp)
  simp only [List.map_cons, List.map_nil, Json.field, norm_str, norm_int, List.cons.injEq,
    Prod.mk.injEq, true_and, and_true, Json.str.injEq, Str.text.injEq,
    Json.int.injEq, Digest.value_inj] at h
  obtain ⟨⟨_, ⟨⟨_⟩, _⟩, _, _, _, _, _, _, _⟩, _⟩ := a
  obtain ⟨⟨_, ⟨⟨_⟩, _⟩, _, _, _, _, _, _, _⟩, _⟩ := b
  obtain ⟨rfl, rfl, rfl, rfl, rfl, rfl, rfl, rfl, rfl⟩ := h
  rfl

theorem optionalCaseSummary_norm_inj {a b : Option ValidatedCaseSummary}
    (h : (Json.opt caseSummaryPayload a).norm = (Json.opt caseSummaryPayload b).norm) : a = b := by
  cases a with
  | none =>
    cases b with
    | none => rfl
    | some b => cases h
  | some a =>
    cases b with
    | none => cases h
    | some b => rw [caseSummaryPayload_norm_inj h]

theorem artifactsPayload_norm_inj {as bs : List VerifiedArtifact}
    (h : (Json.list (as.map (·.payload))).norm = (Json.list (bs.map (·.payload))).norm) :
    as = bs := by
  rw [Json.norm, Json.norm, Json.normItems_eq, Json.normItems_eq, Json.list.injEq, List.map_map,
    List.map_map] at h
  exact List.map_injective_iff.mpr (fun _ _ => VerifiedArtifact.payload_norm_inj) h

theorem WorkerRef.payload_norm_inj {a b : WorkerRef} (h : a.payload.norm = b.payload.norm) :
    a = b := by
  replace h := Json.norm_dict_inj h (by simp) (by simp)
  simp only [List.map_cons, List.map_nil, Json.field, norm_str, norm_int, List.cons.injEq,
    Prod.mk.injEq, true_and, and_true, Json.str.injEq, Json.int.injEq] at h
  obtain ⟨⟨_, _⟩, _⟩ := a
  obtain ⟨⟨_, _⟩, _⟩ := b
  obtain ⟨rfl, rfl⟩ := h
  rfl

theorem cancellationStopPayload_norm_inj {s t : TrustedCancellationStop} {p q : Json}
    (hs : cancellationStopPayload s = .ok p) (ht : cancellationStopPayload t = .ok q)
    (h : p.norm = q.norm) : s.digest = t.digest := by
  simp only [cancellationStopPayload, bind_eq_ok, pure_eq_ok] at hs ht
  obtain ⟨d, hd, rfl⟩ := hs
  obtain ⟨d', hd', rfl⟩ := ht
  replace h := Json.norm_dict_inj h (by simp) (by simp)
  have hproof : d = d' := by
    rw [← Digest.value_inj]
    exact Str.text.inj (Json.str.inj (congrArg Prod.snd (List.cons.inj h).1))
  rw [hd, hd', hproof]

/-- Two rebuilds are of one Attempt and from the same facts, artifacts in any order; of a stop proof
its digest counts. -/
structure EvidenceInput.Same (e e' : EvidenceInput) : Prop where
  attemptId : e.attemptId = e'.attemptId
  runId : e.runId = e'.runId
  attemptNo : e.attemptNo = e'.attemptNo
  assignmentId : e.assignmentId = e'.assignmentId
  fence : e.fence = e'.fence
  worker : e.worker = e'.worker
  executionSpecDigest : e.executionSpecDigest = e'.executionSpecDigest
  trustedExit : e.trustedExit = e'.trustedExit
  caseSummary : e.caseSummary = e'.caseSummary
  artifacts : e.artifacts.Perm e'.artifacts
  cancellationStop : e.cancellationStop.map (·.digest) = e'.cancellationStop.map (·.digest)

/-- The facts a manifest records, as they would be rebuilt from. -/
def EvidenceManifest.input (m : EvidenceManifest) : EvidenceInput where
  attemptId := m.attemptId
  runId := m.runId
  attemptNo := m.attemptNo
  assignmentId := m.assignmentId
  fence := m.fence
  worker := m.worker
  executionSpecDigest := m.executionSpecDigest
  trustedExit := some m.platformExit
  caseSummary := m.caseSummary
  artifacts := m.artifacts
  cancellationStop := m.cancellationStop

namespace EvidenceInput
variable {e e' : EvidenceInput} {m m' : EvidenceManifest} {exit exit' : TrustedExitFacts}
  {artifacts artifacts' : List VerifiedArtifact} {outcome outcome' : EvidenceOutcome}

/-- The artifacts in the order the evidence lists them. -/
def ordered (e : EvidenceInput) : List VerifiedArtifact :=
  Sorting.sortOn (·.path.encode) e.artifacts

/-- The schema and the payload that the root digest of a rebuild is taken of. -/
def Digested (e : EvidenceInput) (root : String × Json) : Prop :=
  ∃ exit outcome, e.trustedExit = some exit ∧
    classifyOutcome exit e.caseSummary e.cancellationStop = .ok outcome ∧
    e.rootPayload (e.payload exit e.ordered outcome) = .ok root

/-- SHA-256 does not confuse what the root digests of two rebuilds are taken of. -/
def Apart (e e' : EvidenceInput) : Prop :=
  ∀ root root', e.Digested root → e'.Digested root' →
    Sha256.hexdigest (canonicalBytes root.1 root.2) =
        Sha256.hexdigest (canonicalBytes root'.1 root'.2) →
      canonicalBytes root.1 root.2 = canonicalBytes root'.1 root'.2

/-- A rebuild reads the artifacts in their order only. -/
theorem build_of_ordered (h : Sorting.sortOn (·.path.encode) artifacts = e.ordered) :
    buildEvidenceManifest { e with artifacts } = buildEvidenceManifest e := by
  simp only [buildEvidenceManifest, h, ordered]
  rfl

/-- What a successful rebuild checked and what it made. -/
theorem build_ok (h : buildEvidenceManifest e = .ok m) :
    m.input = { e with artifacts := e.ordered } ∧ (e.artifacts.map (·.path)).Nodup ∧
      ∃ root, e.trustedExit = some m.platformExit ∧
        classifyOutcome m.platformExit e.caseSummary e.cancellationStop = .ok m.outcome ∧
        e.rootPayload (e.payload m.platformExit e.ordered m.outcome) = .ok root ∧
        contentDigest root.1 root.2 = m.rootDigest := by
  simp only [buildEvidenceManifest, bind_eq_ok, exists_unit, need_eq_ok, pure_eq_ok,
    artifactInvalidIf, raiseIf_eq_ok, not_not] at h
  obtain ⟨exit, hexit, -, hpaths, -, outcome, houtcome, root, hroot, digest, hdigest, rfl⟩ := h
  refine ⟨?_, ?_, root, hexit, houtcome, hroot, (canonicalDigest_eq_ok.mp hdigest).2⟩
  · rw [EvidenceManifest.input, hexit.symm]
    rfl
  · exact (((Sorting.sortOn_perm _ e.artifacts).map _).nodup_iff).mp hpaths

theorem payload_norm_inj (h : (e.payload exit artifacts outcome).map (Json.field Json.norm) =
      (e'.payload exit' artifacts' outcome').map (Json.field Json.norm)) :
    (e.attemptId = e'.attemptId ∧ e.runId = e'.runId ∧ e.attemptNo = e'.attemptNo ∧
      e.assignmentId = e'.assignmentId ∧ e.fence = e'.fence) ∧ e.worker = e'.worker ∧
      e.executionSpecDigest = e'.executionSpecDigest ∧ exit = exit' ∧
      e.caseSummary = e'.caseSummary ∧ artifacts = artifacts' ∧ outcome = outcome' := by
  simp only [payload, List.map_cons, List.map_nil, Json.field, List.cons.injEq, Prod.mk.injEq,
    true_and, and_true] at h
  obtain ⟨hattempt, hworker, hinput, hexit, hsummary, hartifacts, houtcome⟩ := h
  replace hattempt := Json.norm_dict_inj hattempt (by simp) (by simp)
  replace hinput := Json.norm_dict_inj hinput (by simp) (by simp)
  replace houtcome := Json.norm_dict_inj houtcome (by simp) (by simp)
  simp only [List.map_cons, List.map_nil, Json.field, norm_str, norm_int, List.cons.injEq,
    Prod.mk.injEq, true_and, and_true, Json.str.injEq, Str.text.injEq,
    Json.int.injEq, Digest.value_inj, EvidenceOutcome.value_inj] at hattempt hinput houtcome
  obtain ⟨hassignment, hid, hno, hfence, hrun⟩ := hattempt
  exact ⟨⟨hid, hrun, hno, hassignment, hfence⟩, WorkerRef.payload_norm_inj hworker, hinput,
    TrustedExitFacts.payload_norm_inj hexit, optionalCaseSummary_norm_inj hsummary,
    artifactsPayload_norm_inj hartifacts, houtcome⟩

/-- The schema says whether there is a stop proof, and the payload pins its digest. -/
theorem rootPayload_norm_inj {base base' : Json.Members} {root root' : String × Json}
    (hroot : e.rootPayload base = .ok root) (hroot' : e'.rootPayload base' = .ok root')
    (hkeys : base.map Prod.fst = base'.map Prod.fst)
    (hdistinct : ((base.map Prod.fst) ++ (["cancellation_stop"] : List Str)).Nodup)
    (hschema : root.1 = root'.1) (hnorm : root.2.norm = root'.2.norm) :
    base.map (Json.field Json.norm) = base'.map (Json.field Json.norm) ∧
      e.cancellationStop.map (·.digest) = e'.cancellationStop.map (·.digest) := by
  cases hstop : e.cancellationStop with
  | none =>
    rw [rootPayload, hstop] at hroot
    cases pure_eq_ok.mp hroot
    cases hstop' : e'.cancellationStop with
    | none =>
      rw [rootPayload, hstop'] at hroot'
      cases pure_eq_ok.mp hroot'
      exact ⟨Json.norm_dict_inj hnorm hkeys (List.nodup_append.mp hdistinct).1, rfl⟩
    | some stop' =>
      simp only [rootPayload, hstop', bind_eq_ok, pure_eq_ok] at hroot'
      obtain ⟨_, -, rfl⟩ := hroot'
      exact absurd hschema (by simp)
  | some stop =>
    simp only [rootPayload, hstop, bind_eq_ok, pure_eq_ok] at hroot
    obtain ⟨proof, hproof, rfl⟩ := hroot
    cases hstop' : e'.cancellationStop with
    | none =>
      rw [rootPayload, hstop'] at hroot'
      cases pure_eq_ok.mp hroot'
      exact absurd hschema (by simp)
    | some stop' =>
      simp only [rootPayload, hstop', bind_eq_ok, pure_eq_ok] at hroot'
      obtain ⟨proof', hproof', rfl⟩ := hroot'
      have hfields := Json.norm_dict_inj hnorm (by simp [hkeys]) (by simpa using hdistinct)
      rw [List.map_append, List.map_append] at hfields
      obtain ⟨hbase, hlast⟩ := List.append_inj' hfields rfl
      have hdigest : stop.digest = stop'.digest := by
        apply cancellationStopPayload_norm_inj hproof hproof'
        exact congrArg Prod.snd (List.cons.inj hlast).1
      exact ⟨hbase, congrArg some hdigest⟩

/-- Rebuilds with one root digest are of one Attempt, from the same facts, and with one outcome. -/
theorem same_of_rootDigest (h : buildEvidenceManifest e = .ok m)
    (h' : buildEvidenceManifest e' = .ok m') (hapart : e.Apart e')
    (hdigest : m.rootDigest = m'.rootDigest) : e.Same e' ∧ m.outcome = m'.outcome := by
  obtain ⟨-, -, root, hexit, houtcome, hroot, hcontent⟩ := build_ok h
  obtain ⟨-, -, root', hexit', houtcome', hroot', hcontent'⟩ := build_ok h'
  have hsha : Sha256.hexdigest (canonicalBytes root.1 root.2) =
      Sha256.hexdigest (canonicalBytes root'.1 root'.2) := by
    rw [← contentDigest_eq_iff, hcontent, hcontent', hdigest]
  have hbytes := hapart root root' ⟨_, _, hexit, houtcome, hroot⟩ ⟨_, _, hexit', houtcome', hroot'⟩
    hsha
  obtain ⟨hschema, hnorm⟩ := canonicalBytes_eq_iff.mp hbytes
  obtain ⟨hbase, hstop⟩ := rootPayload_norm_inj hroot hroot' rfl (by simp [payload]) hschema hnorm
  obtain ⟨⟨hid, hrun, hno, hassignment, hfence⟩, hworker, hspec, hfacts, hsummary, hartifacts,
    houtcomes⟩ := payload_norm_inj hbase
  refine ⟨⟨hid, hrun, hno, hassignment, hfence, hworker, hspec, ?_, hsummary, ?_, hstop⟩, houtcomes⟩
  · rw [hexit, hexit', hfacts]
  · exact ((Sorting.sortOn_perm _ e.artifacts).symm.trans (List.Perm.of_eq hartifacts)).trans
      (Sorting.sortOn_perm _ e'.artifacts)

/-- Rebuilding evidence is canonical: any order of the artifacts gives the same manifest, what a
manifest records gives it again, and manifests with one root digest were built of the same Attempt,
from the same facts, with the same outcome. -/
theorem rebuild_canonical (h : buildEvidenceManifest e = .ok m) :
    (∀ artifacts, artifacts.Perm e.artifacts →
      buildEvidenceManifest { e with artifacts } = .ok m) ∧
    buildEvidenceManifest m.input = .ok m ∧
    ∀ e' m', buildEvidenceManifest e' = .ok m' → e.Apart e' → m.rootDigest = m'.rootDigest →
      e.Same e' ∧ m.outcome = m'.outcome := by
  obtain ⟨hinput, hpaths, -⟩ := build_ok h
  have hencoded : ∀ artifacts : List VerifiedArtifact, artifacts.Perm e.artifacts →
      buildEvidenceManifest { e with artifacts } = .ok m := by
    intro artifacts hperm
    have hkeys : (artifacts.map (·.path.encode)).Nodup := by
      rw [(hperm.map _).nodup_iff]
      have hcomp := hpaths.map ArtifactPath.encode_injective
      rwa [List.map_map] at hcomp
    rw [build_of_ordered (Sorting.sortOn_eq_of_perm hperm hkeys), h]
  refine ⟨hencoded, ?_, fun e' m' h' hapart hdigest => same_of_rootDigest h h' hapart hdigest⟩
  rw [hinput]
  exact hencoded e.ordered (Sorting.sortOn_perm _ e.artifacts)

theorem apart_of_ordered (h : Sorting.sortOn (·.path.encode) artifacts = e.ordered) :
    e.Apart { e with artifacts } := by
  rintro root root' ⟨exit, outcome, hexit, houtcome, hroot⟩
    ⟨exit', outcome', hexit', houtcome', hroot'⟩ -
  cases hexit.symm.trans hexit'
  cases houtcome.symm.trans houtcome'
  have hsame : e.rootPayload (e.payload exit e.ordered outcome) = .ok root' := by
    rw [← h]
    exact hroot'
  cases hroot.symm.trans hsame
  rfl

end EvidenceInput

namespace OnePassed

def results : VerifiedArtifact := ⟨⟨path, .structuredResult, 120, Digest.zero⟩, by decide⟩

def log : VerifiedArtifact :=
  ⟨⟨⟨⟨"pytest.log"⟩, by decide +kernel⟩, .log, 40, Digest.zero⟩, by decide⟩

def exit : TrustedExitFacts := ⟨"event-1", some 7, .completed, some 0, none, false, false⟩

/-- A passed Attempt with its results and a log, the log uploaded first. -/
def input : EvidenceInput where
  attemptId := "attempt-1"
  runId := "run-1"
  attemptNo := 1
  assignmentId := "assignment-1"
  fence := 1
  worker := ⟨⟨"worker-1", 1⟩, WorkerRef.first_accepted⟩
  executionSpecDigest := Digest.zero
  trustedExit := some exit
  caseSummary := some summary
  artifacts := [log, results]
  cancellationStop := none

theorem build_input : ∃ m, buildEvidenceManifest input = .ok m := by
  have hsome : (buildEvidenceManifest input).toOption.isSome = true := by decide +kernel
  cases hbuild : buildEvidenceManifest input with
  | error e => rw [hbuild] at hsome; cases hsome
  | ok m => exact ⟨m, rfl⟩

theorem ordered_swapped :
    Sorting.sortOn (·.path.encode) [results, log] = input.ordered := by decide +kernel

end OnePassed

theorem rebuild_canonical_passed :
    let swapped := { OnePassed.input with artifacts := [OnePassed.results, OnePassed.log] }
    ∃ m, buildEvidenceManifest OnePassed.input = .ok m ∧ buildEvidenceManifest swapped = .ok m ∧
      buildEvidenceManifest m.input = .ok m ∧ EvidenceInput.Same OnePassed.input swapped := by
  intro swapped
  obtain ⟨m, hm⟩ := OnePassed.build_input
  obtain ⟨hperm, hrebuild, hdigest⟩ := EvidenceInput.rebuild_canonical hm
  have hswapped := hperm [OnePassed.results, OnePassed.log] (List.Perm.swap _ _ [])
  exact ⟨m, hm, hswapped, hrebuild, (hdigest _ m hswapped
    (EvidenceInput.apart_of_ordered OnePassed.ordered_swapped) rfl).1⟩

end QaRunner
