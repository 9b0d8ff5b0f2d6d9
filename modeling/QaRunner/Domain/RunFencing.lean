import QaRunner.Domain.RunSteps

/-! Optimistic versions and fencing of a Run: concurrent commands prepared against one version do
not overwrite each other, and a superseded attempt is never written again. -/
namespace QaRunner
open Guarded Aggregate

namespace Run

variable {r r' : Run} {c : Command}

theorem Change.version (h : r.Change c r') : r'.version = r.version + 1 := by
  cases h with
  | queue _ hnext => rw [hnext]
  | cancel _ _ _ _ _ hnext => rw [hnext]
  | offer _ _ hnext => rw [hnext]
  | reserve _ _ _ _ hnext => rw [hnext]
  | commit _ _ _ _ hnext => rw [hnext]
  | amend _ _ _ _ _ hnext => rw [hnext]
  | converge _ _ _ _ _ _ hnext => rw [hnext]
  | retry _ _ _ hnext => rw [hnext]

theorem versionGuarded : VersionGuarded exec (fun r => r.version) Command.expectedVersion := by
  intro r c r' h hne
  rcases exec_cases h with hsame | ⟨hversion, hchange⟩
  · exact absurd hsame hne
  · exact ⟨hversion, hchange.version⟩

/-- A command that changes a Run expected its version and leaves the next one, so of two commands
prepared against one version at most one takes effect, whichever comes first. -/
theorem no_lost_update (r : Run) :
    (∀ c r', r.exec c = .ok r' → r' ≠ r →
      c.expectedVersion = r.version ∧ r'.version = r.version + 1) ∧
    ∀ c d : Command, c.expectedVersion = d.expectedVersion →
      (apply exec r c = r ∨ apply exec (apply exec r c) d = apply exec r c) ∧
      (apply exec r d = r ∨ apply exec (apply exec r d) c = apply exec r d) := by
  refine ⟨fun c r' => versionGuarded r c r', fun c d heq => ⟨?_, ?_⟩⟩
  · exact versionGuarded.at_most_one heq
  · exact versionGuarded.at_most_one heq.symm

/-- The attempts of a Run as a log under its fence. -/
def log (r : Run) : FencedLog.Log Attempt := ⟨r.currentFence, r.attempts⟩

theorem Change.log_step (h : r.Change c r') : FencedLog.Step r.log r'.log := by
  have keep : r'.log = r.log → FencedLog.Step r.log r'.log := fun hlog => hlog ▸ .keep r.log
  have amend : ∀ current updated, r.attempts.getLast? = some current →
      r'.log = ⟨r.currentFence, r.attempts.dropLast ++ [updated]⟩ →
      FencedLog.Step r.log r'.log := by
    intro current updated hlast hlog
    have hlog' : r.log = ⟨r.currentFence, r.attempts.dropLast ++ [current]⟩ := by
      rw [log, List.dropLast_append_getLast? current hlast]
    rw [hlog, hlog']
    exact .amend _ _ _ _
  cases h with
  | queue _ hnext => exact keep (by simp only [log, hnext])
  | cancel _ _ _ _ _ hnext => exact keep (by simp only [log, hnext])
  | offer _ _ hnext => exact keep (by simp only [log, hnext])
  | reserve _ _ _ _ hnext => exact keep (by simp only [log, hnext])
  | commit attempt _ _ _ hnext =>
    have hlog : r'.log = ⟨r.currentFence + 1, r.attempts ++ [attempt]⟩ := by
      simp only [log, hnext]
    rw [hlog]
    exact .append _ _ _
  | amend current updated hlast _ _ hnext =>
    exact amend current updated hlast (by simp only [log, hnext])
  | converge current updated _ hlast _ _ hnext =>
    exact amend current updated hlast (by simp only [log, hnext])
  | retry _ _ _ hnext => exact keep (by simp only [log, hnext])

theorem exec_log_step (h : r.exec c = .ok r') : FencedLog.Step r.log r'.log := by
  rcases exec_cases h with rfl | ⟨-, hchange⟩
  · exact .keep _
  · exact hchange.log_step

/-- Over any run of commands the log of attempts only grows at its end. -/
theorem after_log_extends (r : Run) (cs : List Command) :
    FencedLog.Extends r.log (after exec r cs).log :=
  after_related (R := fun r r' : Run => FencedLog.Extends r.log r'.log)
    (fun _ => .refl _) (fun _ _ _ => .trans) (fun _ _ _ h => (exec_log_step h).extends) r cs

theorem exec_fence_cases (h : r.exec c = .ok r') :
    r'.currentFence = r.currentFence ∨
      c.commits = true ∧ r'.currentFence = r.currentFence + 1 := by
  rcases exec_cases h with rfl | ⟨-, hchange⟩
  · exact Or.inl rfl
  · cases hchange with
    | queue _ hnext => exact Or.inl (by rw [hnext])
    | cancel _ _ _ _ _ hnext => exact Or.inl (by rw [hnext])
    | offer _ _ hnext => exact Or.inl (by rw [hnext])
    | reserve _ _ _ _ hnext => exact Or.inl (by rw [hnext])
    | commit _ _ _ hcommit hnext => exact Or.inr ⟨hcommit, by rw [hnext]⟩
    | amend _ _ _ _ _ hnext => exact Or.inl (by rw [hnext])
    | converge _ _ _ _ _ _ hnext => exact Or.inl (by rw [hnext])
    | retry _ _ _ hnext => exact Or.inl (by rw [hnext])

/-- The latest attempt of a Run, under its current fence, has this id and worker. -/
def HeldBy (r : Run) (attemptId : Str) (worker : WorkerRef) (fence : ℤ) : Prop :=
  fence = r.currentFence ∧ ∃ latest, r.attempts.getLast? = some latest ∧ latest.id = attemptId ∧
    latest.worker = worker

theorem heldBy_of_authority {attemptId : Str} {current : Attempt} {authority : AttemptAuthority}
    {worker : WorkerRef} {fence : ℤ} (hcurrent : r.currentAttempt attemptId = .ok current)
    (hauthority : current.ensureAuthority authority worker fence = .ok ()) :
    r.HeldBy attemptId worker fence := by
  obtain ⟨hlast, hid, -, hfence⟩ := currentAttempt_eq_ok.mp hcurrent
  obtain ⟨hown, hreceived, hworker, hsender⟩ := Attempt.ensureAuthority_eq_ok.mp hauthority
  refine ⟨?_, current, hlast, hid, hworker.trans hsender.symm⟩
  rw [hreceived, ← hown, hfence]

theorem record_heldBy {attemptId : Str} {event : AttemptEvent} {authority : AttemptAuthority}
    {worker : WorkerRef} {fence v w : ℤ}
    (h : r.exec (.recordCurrentAttemptEvent attemptId event authority worker fence v w) = .ok r') :
    r.HeldBy attemptId worker fence := by
  obtain ⟨current, updated, hcurrent, hupdated, -⟩ := recordCurrentAttemptEvent_eq_ok.mp h
  exact heldBy_of_authority hcurrent (Attempt.recordEvent_eq_ok.mp hupdated).1

theorem finalize_heldBy {attemptId : Str} {report : EvidenceReport} {v w : ℤ}
    (h : r.exec (.finalizeCurrentAttemptEvidence attemptId report v w) = .ok r') :
    r.HeldBy attemptId report.worker report.fence := by
  obtain ⟨result, hresult, -⟩ := exec_finalizeCurrent.mp h
  obtain ⟨current, finalized, hcurrent, hfinalized, -⟩ :=
    finalizeCurrentAttemptEvidence_eq_ok.mp hresult
  exact heldBy_of_authority hcurrent (Attempt.finalizeWith_eq_ok.mp hfinalized).1

/-- Fencing over any run of commands from any Run, in particular from a created one: the fence
rises only by one and only at a start commit, reports are accepted only from the holder of the
latest attempt under the current fence, and an attempt behind the latest never changes. -/
theorem run_fenced (r : Run) :
    (∀ c r', r.exec c = .ok r' → r'.currentFence = r.currentFence ∨
      c.commits = true ∧ r'.currentFence = r.currentFence + 1) ∧
    (∀ cs, r.currentFence ≤ (after exec r cs).currentFence) ∧
    (∀ attemptId event authority worker fence v w r',
      r.exec (.recordCurrentAttemptEvent attemptId event authority worker fence v w) = .ok r' →
      r' ≠ r → r.HeldBy attemptId worker fence) ∧
    (∀ attemptId report v w r',
      r.exec (.finalizeCurrentAttemptEvidence attemptId report v w) = .ok r' →
      r' ≠ r → r.HeldBy attemptId report.worker report.fence) ∧
    ∀ cs (i : ℕ), i + 1 < r.attempts.length → (after exec r cs).attempts[i]? = r.attempts[i]? := by
  refine ⟨fun c r' h => exec_fence_cases h, fun cs => (after_log_extends r cs).fence, ?_, ?_, ?_⟩
  · intro attemptId event authority worker fence v w r' h _
    exact record_heldBy h
  · intro attemptId report v w r' h _
    exact finalize_heldBy h
  · intro cs i hi
    exact (after_log_extends r cs).frozen i hi

end Run
end QaRunner
