import QaRunner.Domain.RunFencing

/-! Cancellation of a Run: a converged cancellation carries its stop proof, an intent stops new
work, and a cancelled Run stays as it is. -/
namespace QaRunner
open Guarded Aggregate

namespace Run

variable {r r' : Run} {c : Command}

theorem statePointers (r : Run) : r.validateState = .ok () ∧
    (∀ latest, r.attempts.getLast? = some latest → Fields.hasCancelledOutcome latest →
      r.state = .cancelled ∧ r.pendingRetryIntent.isNone ∧ r.cancellationStop.isSome) ∧
    (r.cancelIntent.isSome → r.state = .running ∨ r.state = .cancelled) := by
  have h := (Fields.postInit_eq_ok r.accepted).2.2.2.1
  simp only [Fields.validateStatePointers, then_eq_ok, invalidRunIf_eq_ok] at h
  obtain ⟨hstate, -, hconverged, -, hintent⟩ := h
  refine ⟨hstate, fun latest hlast houtcome => ?_, fun hsome => ?_⟩
  · by_contra hnot
    exact hconverged ⟨latest, hlast, houtcome, hnot⟩
  · by_contra hnot
    rw [not_or] at hnot
    exact hintent ⟨hsome, hnot⟩

/-- A cancelled Run has an intent, and its stop proof or the absence of one was checked. -/
theorem cancelled_facts (hstate : r.state = .cancelled) :
    ∃ intent, r.cancelIntent = some intent ∧
      ∀ latest, r.attempts.getLast? = some latest → r.pendingRetryIntent = none →
        ∃ stop, r.cancellationStop = some stop ∧
          r.validateConvergence latest intent stop = .ok () := by
  have h := r.statePointers.1
  simp only [Fields.validateState, hstate, Fields.validateCancelled, bind_eq_ok, exists_unit,
    invalidRunIf_eq_ok, need_eq_ok] at h
  obtain ⟨-, intent, hintent, h⟩ := h
  refine ⟨intent, hintent, fun latest hlast hpending => ?_⟩
  simp only [hlast, hpending, bind_eq_ok, need_eq_ok] at h
  exact h

/-- A cancellation that converged on an attempt: the attempt is cancelled, its evidence carries a
stop proof bound to the Run, the attempt, its fence and worker and the digest of the intent, and
both stop instants are at or after the intent. -/
def Converged (r : Run) (latest : Attempt) : Prop :=
  latest.state = .cancelled ∧ ∃ evidence stop intent digest,
    latest.evidence = some evidence ∧ evidence.outcome = .cancelled ∧
      evidence.cancellationStop = some stop ∧ r.cancelIntent = some intent ∧
      intent.digest = .ok digest ∧ stop.runId = r.id ∧ stop.attemptId = latest.id ∧
      stop.fence = latest.fence ∧ stop.fence = r.currentFence ∧ stop.worker = latest.worker ∧
      stop.cancellationIntentDigest = digest ∧ intent.recordedAt ≤ stop.processStoppedAt ∧
      intent.recordedAt ≤ stop.sutAccessStoppedAt

theorem converged_of_cancelled {latest : Attempt} (hstate : r.state = .cancelled)
    (hlast : r.attempts.getLast? = some latest) (hpending : r.pendingRetryIntent = none) :
    r.Converged latest := by
  obtain ⟨intent, hintent, hfacts⟩ := cancelled_facts hstate
  obtain ⟨stop, -, h⟩ := hfacts latest hlast hpending
  simp only [Fields.validateConvergence, bind_eq_ok, exists_unit, need_eq_ok, raiseIf_eq_ok, not_or,
    ne_eq, not_not] at h
  obtain ⟨hcancelled, evidence, hevidence, ⟨houtcome, hstop⟩, ⟨hrun, hattempt, hfence, hcurrent,
    hworker⟩, digest, hdigest, ⟨hbound, hafter⟩, -⟩ := h
  rw [Datetime.lt_def, Nat.not_lt] at hafter
  refine ⟨hcancelled, evidence, stop, intent, digest, hevidence, houtcome, hstop, hintent, hdigest,
    hrun, hattempt, hfence, hcurrent, hworker, hbound, ?_, ?_⟩
  · exact Nat.le_trans hafter (Datetime.earlier_le_left _ _)
  · exact Nat.le_trans hafter (Datetime.earlier_le_right _ _)

/-- What work a Run has taken on: its reservations, its attempts and its retry intents. -/
structure SameWork (r r' : Run) : Prop where
  assignments : r'.assignments = r.assignments
  attempts : r'.attempts.map (·.id) = r.attempts.map (·.id)
  retryIntents : r'.retryIntents = r.retryIntents
  cancelIntent : r'.cancelIntent = r.cancelIntent

theorem SameWork.trans {s : Run} (h : SameWork r r') (h' : SameWork r' s) : SameWork r s where
  assignments := h'.assignments.trans h.assignments
  attempts := h'.attempts.trans h.attempts
  retryIntents := h'.retryIntents.trans h.retryIntents
  cancelIntent := h'.cancelIntent.trans h.cancelIntent

theorem amended_ids {current updated : Attempt} (hlast : r.attempts.getLast? = some current)
    (hid : updated.id = current.id) :
    (r.attempts.dropLast ++ [updated]).map (·.id) = r.attempts.map (·.id) := by
  have hsplit := List.dropLast_append_getLast? current hlast
  rw [← hsplit]
  simp [hid]

/-- Every command that could add work consults the intent or needs a state without one. -/
theorem Change.sameWork (h : r.Change c r') (hintent : r.cancelIntent.isSome) :
    SameWork r r' := by
  have hstates := r.statePointers.2.2 hintent
  have elsewhere : r.state ≠ .running → r.state ≠ .cancelled → SameWork r r' :=
    fun hrunning hcancelled => absurd hstates (by simp [hrunning, hcancelled])
  cases h with
  | queue hstate _ => exact elsewhere (by simp [hstate]) (by simp [hstate])
  | cancel _ _ _ _ hnone _ => simp [hnone] at hintent
  | offer _ hstate _ =>
    rcases hstate with hstate | hstate <;> exact elsewhere (by simp [hstate]) (by simp [hstate])
  | reserve _ _ _ hstate _ => exact elsewhere (by simp [hstate]) (by simp [hstate])
  | commit _ _ hstate _ _ => exact elsewhere (by simp [hstate]) (by simp [hstate])
  | amend current updated hlast hid _ hnext =>
    refine ⟨by rw [hnext], ?_, by rw [hnext], by rw [hnext]⟩
    rw [hnext]
    exact amended_ids hlast hid
  | converge current updated _ hlast hid _ hnext =>
    refine ⟨by rw [hnext], ?_, by rw [hnext], by rw [hnext]⟩
    rw [hnext]
    exact amended_ids hlast hid
  | retry _ _ hnone _ => simp [hnone] at hintent

theorem after_sameWork (r : Run) (hintent : r.cancelIntent.isSome) (cs : List Command) :
    SameWork r (after exec r cs) := by
  apply after_induction (P := SameWork r) ?_ ⟨rfl, rfl, rfl, rfl⟩
  intro s d s' hs h
  rcases exec_cases h with rfl | ⟨-, hchange⟩
  · exact hs
  · exact hs.trans (hchange.sameWork (hs.cancelIntent ▸ hintent))

/-- The latest attempt of a cancelled Run is over: it converged, or a retry of it was pending. -/
theorem latest_terminal {latest : Attempt} (hstate : r.state = .cancelled)
    (hlast : r.attempts.getLast? = some latest) : latest.state.terminal = true := by
  cases hpending : r.pendingRetryIntent with
  | none =>
    rw [(converged_of_cancelled hstate hlast hpending).1]
    rfl
  | some pending =>
    -- the pending intent was validated against its source, which is the latest attempt
    have hsource := r.history.pending_source pending hpending
    rw [hlast, Option.map_some, Option.some.injEq] at hsource
    have hmem : pending ∈ r.retryIntents := by
      unfold Fields.pendingRetryIntent at hpending
      split at hpending
      · exact (Keyed.find_reverse_some hpending).1
      · cases hpending
    have hvalid := r.history.intents_valid pending hmem
    simp only [Fields.validateRetryIntent, bind_eq_ok, exists_unit, need_eq_ok] at hvalid
    obtain ⟨source, hfind, -, -, hauthority⟩ := hvalid
    obtain ⟨hsourceMem, hsourceId⟩ := Keyed.find_some hfind
    have heq : source = latest := Keyed.eq_of_key r.history.attempt_ids hsourceMem
      (List.mem_of_getLast? hlast) (hsourceId.trans hsource.symm)
    rw [heq] at hauthority
    rcases Fields.settled_of_authority hauthority with h | h | ⟨h, -⟩ <;> rw [h] <;> rfl

theorem cancelled_absorbing (hstate : r.state = .cancelled) : Absorbing exec r := by
  intro c r' h
  rcases exec_cases h with hsame | ⟨-, hchange⟩
  · exact hsame
  exfalso
  have other : ∀ s : RunState, s ≠ .cancelled → r.state ≠ s := fun s hne heq =>
    hne (heq.symm.trans hstate)
  cases hchange with
  | queue hqueue _ => exact other _ (by decide) hqueue
  | cancel _ _ _ _ hnone _ =>
    obtain ⟨intent, hintent, -⟩ := cancelled_facts hstate
    simp [hnone] at hintent
  | offer _ hoffer _ => rcases hoffer with h | h <;> exact other _ (by decide) h
  | reserve _ _ _ hreserve _ => exact other _ (by decide) hreserve
  | commit _ _ hcommit _ _ => exact other _ (by decide) hcommit
  | amend current _ hlast _ hlive _ =>
    rcases hlive with hlive | hrunning
    · exact absurd (latest_terminal hstate hlast) (by simp [hlive])
    · exact other _ (by decide) hrunning
  | converge _ _ _ _ _ hrunning _ => exact other _ (by decide) hrunning
  | retry _ hrunning _ _ => exact other _ (by decide) hrunning

/-- Cancellation safety of any Run and of every run of commands from it: a cancelled Run with
attempts and nothing pending converged on its latest attempt, an intent admits no new work, and a
cancelled Run stays as it is. -/
theorem cancellation_safe (r : Run) :
    (r.state = .cancelled → r.attempts ≠ [] → r.pendingRetryIntent = none →
      ∃ latest, r.attempts.getLast? = some latest ∧ r.Converged latest) ∧
    (r.cancelIntent.isSome → ∀ cs, SameWork r (after exec r cs)) ∧
    (r.state = .cancelled → (∀ c r', r.exec c = .ok r' → r' = r) ∧
      ∀ cs, after exec r cs = r) := by
  refine ⟨fun hstate hne hpending => ?_, after_sameWork r, fun hstate => ?_⟩
  · cases hlast : r.attempts.getLast? with
    | none => exact absurd (List.getLast?_eq_none_iff.mp hlast) hne
    | some latest => exact ⟨latest, rfl, converged_of_cancelled hstate hlast hpending⟩
  · exact ⟨cancelled_absorbing hstate, (cancelled_absorbing hstate).after_eq⟩

end Run
end QaRunner
