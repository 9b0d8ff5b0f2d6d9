import QaRunner.Domain.RunFencing

/-! Which Attempt was started on a retry intent: at most one ever is, over any run of commands. -/
namespace QaRunner
open Guarded Aggregate

namespace Run

variable {r r' : Run} {c : Command} {intentId attemptId attemptId' : Str}

/-- The Attempts in order, each with the intent it consumed. -/
def consumption (r : Run) : List (Str × Option Str) :=
  r.attempts.map fun a => (a.id, a.retryProvenance.map (·.retryIntentId))

/-- The Attempt was started on the intent. -/
def Consumes (r : Run) (intentId attemptId : Str) : Prop :=
  (attemptId, some intentId) ∈ r.consumption

theorem consumes_of_mem {a : Attempt} {p : RetryProvenance} (ha : a ∈ r.attempts)
    (hp : a.retryProvenance = some p) : r.Consumes p.retryIntentId a.id :=
  List.mem_map.mpr ⟨a, ha, by rw [hp]; rfl⟩

/-- The first Attempt consumed nothing, and every later one the intent at its place. -/
theorem consumed_eq (r : Run) : r.attempts.map (fun a => a.retryProvenance.map (·.retryIntentId)) =
    (none :: r.retryIntents.map fun i => some i.id).take r.attempts.length := by
  have hconsumed := r.run_exclusive.consumed
  cases hattempts : r.attempts with
  | nil => rfl
  | cons first rest =>
    have hget : r.attempts[0]? = some first := by rw [hattempts]; rfl
    have hfirst : first.retryProvenance = none := by
      have hno := (r.history.attempt_facts hget).2.1
      have hsome := first.retryProvenance_isSome
      rw [← Option.not_isSome_iff_eq_none, hsome]
      omega
    rw [hattempts, List.tail_cons] at hconsumed
    rw [List.map_cons, hfirst, List.length_cons, List.take_succ_cons, hconsumed, Option.map_none]
    congr 1
    rw [List.take_append_of_le_length (by simp), List.take_of_length_le (by simp)]

/-- No intent is consumed twice. -/
theorem Consumes.unique (h : r.Consumes intentId attemptId) (h' : r.Consumes intentId attemptId') :
    attemptId = attemptId' := by
  obtain ⟨a, ha, hpair⟩ := List.mem_map.mp h
  obtain ⟨b, hb, hpair'⟩ := List.mem_map.mp h'
  rw [Prod.mk.injEq] at hpair hpair'
  obtain ⟨i, hi⟩ := List.mem_iff_getElem?.mp ha
  obtain ⟨j, hj⟩ := List.mem_iff_getElem?.mp hb
  -- the intent stands at the place of both attempts
  have hplace : ∀ (k : ℕ) x, r.attempts[k]? = some x →
      x.retryProvenance.map (·.retryIntentId) = some intentId →
      ∃ l, k = l + 1 ∧ (r.retryIntents.map (·.id))[l]? = some intentId := by
    intro k x hx hid
    have hmap : (r.attempts.map fun a => a.retryProvenance.map (·.retryIntentId))[k]? =
        some (some intentId) := by
      rw [List.getElem?_map, hx, Option.map_some, hid]
    obtain ⟨hk, -⟩ := List.getElem?_eq_some_iff.mp hx
    rw [r.consumed_eq, List.getElem?_take_of_lt hk] at hmap
    cases k with
    | zero => cases hmap
    | succ l =>
      refine ⟨l, rfl, ?_⟩
      rw [List.getElem?_cons_succ, List.getElem?_map, Option.map_eq_some_iff] at hmap
      obtain ⟨intent, hintent, hid'⟩ := hmap
      rw [List.getElem?_map, hintent, Option.map_some, Option.some.inj hid']
  obtain ⟨k, rfl, hk⟩ := hplace i a hi hpair.2
  obtain ⟨l, rfl, hl⟩ := hplace j b hj hpair'.2
  obtain ⟨hlt, -⟩ := List.getElem?_eq_some_iff.mp hk
  have hsame : k = l := (List.getElem?_inj hlt r.history.intent_ids).mp (hk.trans hl.symm)
  subst hsame
  cases hi.symm.trans hj
  exact hpair.1.symm.trans hpair'.1

/-- The consumption depends on who the Attempts are and what was queued, not on how far they got. -/
theorem consumption_of_same (hids : r'.attempts.map (·.id) = r.attempts.map (·.id))
    (hintents : r'.retryIntents = r.retryIntents) : r'.consumption = r.consumption := by
  have hlength : r'.attempts.length = r.attempts.length := by
    simpa only [List.length_map] using congrArg List.length hids
  have hzip : ∀ r : Run, r.consumption = (r.attempts.map (·.id)).zip
      (r.attempts.map fun a => a.retryProvenance.map (·.retryIntentId)) := by
    intro r
    rw [consumption, List.zip_map']
  rw [hzip, hzip r, hids, consumed_eq, consumed_eq, hintents, hlength]

theorem ids_of_amended {current updated : Attempt} (hlast : r.attempts.getLast? = some current)
    (hid : updated.id = current.id) :
    (r.attempts.dropLast ++ [updated]).map (·.id) = r.attempts.map (·.id) := by
  conv_rhs => rw [← List.dropLast_append_getLast? current hlast]
  rw [List.map_append, List.map_append, List.map_singleton, List.map_singleton, hid]

theorem Change.consumption (h : r.Change c r') : r.consumption <+: r'.consumption := by
  have keep : ∀ (hattempts : r'.attempts = r.attempts), r.consumption <+: r'.consumption := by
    intro hattempts
    have hsame : r'.consumption = r.consumption := by
      rw [Run.consumption, Run.consumption, hattempts]
    exact hsame ▸ List.prefix_rfl
  have amend : ∀ current updated, r.attempts.getLast? = some current → updated.id = current.id →
      r'.attempts = r.attempts.dropLast ++ [updated] → r'.retryIntents = r.retryIntents →
      r.consumption <+: r'.consumption := by
    intro current updated hlast hid hattempts hintents
    have hsame := consumption_of_same (hattempts ▸ ids_of_amended hlast hid) hintents
    exact hsame ▸ List.prefix_rfl
  cases h with
  | queue _ hnext => exact keep (by rw [hnext])
  | cancel _ _ _ _ _ hnext => exact keep (by rw [hnext])
  | offer _ _ hnext => exact keep (by rw [hnext])
  | reserve _ _ _ _ hnext => exact keep (by rw [hnext])
  | commit attempt _ _ _ hnext =>
    rw [Run.consumption, Run.consumption, hnext, List.map_append]
    exact List.prefix_append _ _
  | amend current updated hlast hid _ hnext =>
    exact amend current updated hlast hid (by rw [hnext]) (by rw [hnext])
  | converge current updated _ hlast hid _ hnext =>
    exact amend current updated hlast hid (by rw [hnext]) (by rw [hnext])
  | retry _ _ _ hnext => exact keep (by rw [hnext])

/-- What was consumed stays consumed, by the same Attempt. -/
theorem Consumes.after (h : r.Consumes intentId attemptId) (cs : List Command) :
    (after exec r cs).Consumes intentId attemptId := by
  refine List.IsPrefix.mem h (after_related
    (R := fun r r' : Run => r.consumption <+: r'.consumption) (fun _ => List.prefix_rfl)
    (fun _ _ _ => List.IsPrefix.trans) ?_ r cs)
  intro r c r' hexec
  rcases exec_cases hexec with rfl | ⟨-, hchange⟩
  · exact List.prefix_rfl
  · exact hchange.consumption

/-- The Attempt that a start is answered with was there under its key, or is the next one. -/
theorem attempt_of_commitStart {assignmentId startCommitKey newAttemptId : Str} {worker : WorkerRef}
    {specDigest : Digest} {observedAt : Datetime} {v : ℤ} {result : CommitStartResult}
    (h : r.commitStart assignmentId worker startCommitKey specDigest newAttemptId observedAt v =
      .ok result) :
    (result.run = r ∧ result.attempt ∈ r.attempts ∧
        result.attempt.startCommitKey = startCommitKey) ∨
      (result.run.attempts = r.attempts ++ [result.attempt] ∧ result.attempt.id = newAttemptId ∧
        result.attempt.assignmentId = assignmentId ∧ result.attempt.worker = worker ∧
        result.attempt.startCommitKey = startCommitKey ∧
        result.attempt.specDigest = specDigest) := by
  simp only [commitStart, bind_eq_ok] at h
  obtain ⟨received, -, h⟩ := h
  cases hkey : r.attemptByKey startCommitKey with
  | some existing =>
    simp only [hkey, replayCommit_eq_ok] at h
    obtain ⟨-, -, -, -, -, -, rfl⟩ := h
    have hsame := List.find?_some hkey
    exact Or.inl ⟨rfl, List.mem_of_find?_eq_some hkey, of_decide_eq_true hsame⟩
  | none =>
    simp only [hkey] at h
    obtain ⟨-, -, _, _, _, _, hcreate, -, -, -, hnext⟩ := commitClaimed_ok h
    obtain ⟨_, hattempt⟩ := construct_eq_ok.mp hcreate
    refine Or.inr ⟨by rw [hnext], ?_⟩
    rw [hattempt]
    exact ⟨rfl, rfl, rfl, rfl, rfl⟩

theorem mem_of_commitStart {assignmentId startCommitKey newAttemptId : Str} {worker : WorkerRef}
    {specDigest : Digest} {observedAt : Datetime} {v : ℤ} {result : CommitStartResult}
    (h : r.commitStart assignmentId worker startCommitKey specDigest newAttemptId observedAt v =
      .ok result) : result.attempt ∈ result.run.attempts := by
  rcases attempt_of_commitStart h with ⟨hrun, hmem, -⟩ | ⟨hattempts, -⟩
  · exact hrun ▸ hmem
  · rw [hattempts]
    exact List.mem_concat_self

end Run
end QaRunner
