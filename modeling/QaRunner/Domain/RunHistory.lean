import QaRunner.Domain.Run
import QaRunner.Lib.Keyed

/-! What the checks of a Run establish: attempts numbered and fenced in order, one committed
reservation for each, settled predecessors, and intents consumed in order. -/
namespace QaRunner
open Guarded

/-- The facts the normalized history check establishes. -/
structure Run.Fields.History (r : Run.Fields) : Prop where
  assignment_ids : (r.assignments.map (·.id)).Nodup
  assignment_latest : ∀ current, r.currentAssignmentId = some current →
    (r.assignments.map (·.id)).getLast? = some current
  intent_ids : (r.retryIntents.map (·.id)).Nodup
  pending_latest : ∀ pending, r.pendingRetryIntentId = some pending →
    (r.retryIntents.map (·.id)).getLast? = some pending
  attempt_ids : (r.attempts.map (·.id)).Nodup
  start_commit_keys : (r.attempts.map (·.startCommitKey)).Nodup
  attempts_valid : r.validateAttempts 1 none r.attempts = .ok ()
  current_fence : r.currentFence = (r.attempts.getLast?.map (·.fence)).getD 0
  pending_source : ∀ pending, r.pendingRetryIntent = some pending →
    r.attempts.getLast?.map (·.id) = some pending.sourceAttemptId
  authorities : (r.retryIntents.map fun i => (i.sourceAttemptId, i.authority)).Nodup
  intents_valid : ∀ i ∈ r.retryIntents, r.validateRetryIntent i = .ok ()
  states_valid : ∀ a ∈ r.assignments, r.validateAssignmentState a = .ok ()
  committed_order : r.committedAssignmentIds = r.attempts.map (·.assignmentId)

theorem Run.Fields.validatePointer_eq_ok {field : String} {pointer : Option Str}
    {ids : List Str} {u : Unit} : validatePointer field pointer ids = .ok u ↔
      ∀ current, pointer = some current → current ∈ ids ∧ ids.getLast? = some current := by
  simp only [validatePointer, whenSome_eq_ok, then_eq_ok, invalidRunIf_eq_ok, not_not, ne_eq]

theorem Run.Fields.assignmentEpochs_eq_ok {r : Run.Fields} {epochs : List ℕ}
    (h : r.assignmentEpochs = .ok epochs) :
    ∀ a ∈ r.assignments, r.validateAssignmentState a = .ok () := by
  intro a ha
  obtain ⟨epoch, hepoch⟩ := collect_ok_mem h a ha
  simp only [bind_eq_ok, exists_unit, pure_eq_ok] at hepoch
  obtain ⟨_, -, hstate, -⟩ := hepoch
  exact hstate

theorem Run.Fields.history_of_ok {r : Run.Fields} (h : r.validateNormalizedHistory = .ok ()) :
    r.History := by
  simp only [validateNormalizedHistory, bind_eq_ok, exists_unit, invalidRunIf_eq_ok,
    validatePointer_eq_ok, each_eq_ok, not_not, ne_eq, not_exists, not_and] at h
  obtain ⟨hassign, hcurrent, hintents, hpending, hattempts, hkeys, hvalid, hfence, hsource,
    hauth, hretry, epochs, hepochs, -, hcommitted, -, -⟩ := h
  exact {
    assignment_ids := hassign
    assignment_latest := fun current hc => (hcurrent current hc).2
    intent_ids := hintents
    pending_latest := fun pending hp => (hpending pending hp).2
    attempt_ids := hattempts
    start_commit_keys := hkeys
    attempts_valid := hvalid
    current_fence := hfence
    pending_source := hsource
    authorities := hauth
    intents_valid := hretry
    states_valid := assignmentEpochs_eq_ok hepochs
    committed_order := hcommitted }

/-- The checks of a Run in the order they run. -/
theorem Run.Fields.postInit_eq_ok {r : Run.Fields} (h : r.postInit = .ok ()) :
    r.validateNormalizedHistory = .ok () ∧ r.validateCancelIntentCausality = .ok () ∧
      r.validateCancellationHistory = .ok () ∧ r.validateStatePointers = .ok () ∧
      r.validateAssignmentEpochTails = .ok () ∧ r.validateRetryIntentConsumption = .ok () := by
  simp only [postInit, then_eq_ok] at h
  exact h.2.2.2.2.2

theorem Run.history (r : Run) : r.History :=
  Run.Fields.history_of_ok (Run.Fields.postInit_eq_ok r.accepted).1

/-- The attempt before a position, or the given one before the first. -/
def precedingAttempt (previous : Option Attempt) (attempts : List Attempt) : ℕ → Option Attempt
  | 0 => previous
  | i + 1 => attempts[i]?

theorem Run.Fields.validateAttempts_get {r : Run.Fields} {attempts : List Attempt} {n : ℕ}
    {previous : Option Attempt} (h : r.validateAttempts n previous attempts = .ok ()) :
    ∀ i a, attempts[i]? = some a →
      r.validateAttempt (n + i) (precedingAttempt previous attempts i) a = .ok () := by
  induction attempts generalizing n previous with
  | nil => simp
  | cons first rest ih =>
    simp only [validateAttempts, then_eq_ok] at h
    obtain ⟨hfirst, hrest⟩ := h
    intro i a ha
    cases i with
    | zero =>
      simp only [List.getElem?_cons_zero, Option.some.injEq] at ha
      rw [← ha]
      exact hfirst
    | succ j =>
      simp only [List.getElem?_cons_succ] at ha
      have hj := ih hrest j a ha
      rw [Nat.add_right_comm, Nat.add_assoc] at hj
      cases j <;> exact hj

namespace Run.Fields.History

variable {r : Run.Fields} (h : r.History) {i : ℕ} {a : Attempt}
include h

theorem attempt_valid (ha : r.attempts[i]? = some a) :
    r.validateAttempt (i + 1) (precedingAttempt none r.attempts i) a = .ok () := by
  have hi := validateAttempts_get h.attempts_valid i a ha
  rwa [Nat.add_comm 1 i] at hi

theorem attempt_facts (ha : r.attempts[i]? = some a) :
    a.runId = r.id ∧ a.attemptNo = i + 1 ∧ a.fence = i + 1 ∧
      ∃ s, r.assignmentById a.assignmentId = some s ∧
        s.state = .committed ∧ s.worker = a.worker ∧ s.specDigest = a.specDigest := by
  have hvalid := h.attempt_valid ha
  simp only [validateAttempt, bind_eq_ok, exists_unit, invalidRunIf_eq_ok, need_eq_ok, not_not,
    ne_eq, not_or] at hvalid
  obtain ⟨hrun, hno, hfence, s, hs, ⟨hstate, hworker, hspec⟩, -⟩ := hvalid
  exact ⟨hrun, by omega, by omega, s, hs, hstate, hworker, hspec⟩

theorem attemptNo_inj {j : ℕ} {b : Attempt} (ha : r.attempts[i]? = some a)
    (hb : r.attempts[j]? = some b) (hno : a.attemptNo = b.attemptNo) : i = j := by
  have hi := (h.attempt_facts ha).2.1
  have hj := (h.attempt_facts hb).2.1
  omega

/-- A retry attempt names an intent of the Run, and the attempt before it is the source that
intent was validated against. -/
theorem retry_facts (ha : r.attempts[i + 1]? = some a) :
    ∃ provenance intent source, a.retryProvenance = some provenance ∧ intent ∈ r.retryIntents ∧
      intent.id = provenance.retryIntentId ∧ r.attempts[i]? = some source ∧
      validateIntentAuthority intent source = .ok () := by
  have hvalid := h.attempt_valid ha
  simp only [validateAttempt, bind_eq_ok, exists_unit, need_eq_ok, Nat.add_eq_right,
    Nat.succ_ne_zero, if_false, validateRetryChain, raiseIf_eq_ok,
    not_or, ne_eq, not_not] at hvalid
  obtain ⟨-, -, -, s, -, -, -, provenance, hprov, intent, hintent, source, hsource,
    ⟨hprevious, -, -, hno, -⟩, -⟩ := hvalid
  obtain ⟨hmem, hid⟩ := Keyed.find_some hintent
  obtain ⟨hsource, -⟩ := Keyed.find_some hsource
  -- the source of the provenance is the attempt just before this one
  simp only [precedingAttempt, Option.map_eq_some_iff] at hprevious
  obtain ⟨previous, hget, hpid⟩ := hprevious
  have heq : previous = source :=
    Keyed.eq_of_key h.attempt_ids (List.mem_of_getElem? hget) hsource hpid
  subst heq
  -- and it is the attempt the intent itself was checked against
  have hcheck := h.intents_valid intent hmem
  simp only [validateRetryIntent, bind_eq_ok, exists_unit, need_eq_ok, invalidRunIf_eq_ok, not_or,
    ne_eq, not_not] at hcheck
  obtain ⟨checked, hchecked, -, ⟨hno', -, -⟩, hauthority⟩ := hcheck
  obtain ⟨hchecked, -⟩ := Keyed.find_some hchecked
  obtain ⟨k, hk⟩ := List.mem_iff_getElem?.mp hchecked
  have hik := h.attemptNo_inj hget hk (hno.symm.trans hno')
  rw [← hik, hget] at hk
  cases hk
  exact ⟨provenance, intent, previous, hprov, hmem, hid, hget, hauthority⟩

theorem currentFence_eq : r.currentFence = r.attempts.length := by
  rw [h.current_fence]
  cases hlast : r.attempts.getLast? with
  | none =>
    rw [List.getLast?_eq_none_iff] at hlast
    simp [hlast]
  | some last =>
    rw [List.getLast?_eq_getElem?] at hlast
    obtain ⟨hlen, -⟩ := List.getElem?_eq_some_iff.mp hlast
    have hfence := (h.attempt_facts hlast).2.2.1
    simp only [Option.map_some, Option.getD_some, hfence]
    omega

/-- A reservation that is still open is the current one, so it is the last. -/
theorem open_last {s : Assignment} (hs : r.assignments[i]? = some s)
    (hopen : s.state = .offered ∨ s.state = .claimed) : i + 1 = r.assignments.length := by
  have hstate := h.states_valid s (List.mem_of_getElem? hs)
  have hcurrent : r.currentAssignmentId = some s.id := by
    rcases hopen with hopen | hopen <;>
      simpa only [validateAssignmentState, hopen, invalidRunIf_eq_ok, not_not] using hstate
  exact Keyed.index_getLast h.assignment_ids hs (h.assignment_latest s.id hcurrent)

end Run.Fields.History

/-- The attempt is over and a retry of it was authorized. -/
def Attempt.Settled (a : Attempt) : Prop :=
  a.state = .testFailed ∨ a.state = .infraFailed ∨ a.state = .attemptUnknown ∧
    ∃ record, a.adjudications.getLast? = some record ∧ record.decision.permitsRetry = true

theorem Run.Fields.settled_of_authority {intent : RetryIntent} {source : Attempt}
    (h : validateIntentAuthority intent source = .ok ()) : source.Settled := by
  unfold validateIntentAuthority at h
  split at h
  · simp only [bind_eq_ok, exists_unit, need_eq_ok, raiseIf_eq_ok, not_or, ne_eq, not_not,
      Bool.not_eq_false] at h
    obtain ⟨record, hlast, -, -, -, -, -, hpermits, -⟩ := h
    have hne : source.adjudications ≠ [] := by
      rintro hnil
      simp [hnil] at hlast
    exact Or.inr (Or.inr ⟨source.unknown_of_adjudications hne, record, hlast, hpermits⟩)
  · next authority _ =>
    rw [invalidRunIf_eq_ok, not_not, PolicyRetryAuthority.expectedState] at h
    split at h
    · exact Or.inl h
    · exact Or.inr (Or.inl h)

/-- Execution of a Run is exclusive: one attempt at a time, each on its own reservation and under
its own fence, and every retry accounted for. -/
structure Run.Exclusive (r : Run) : Prop where
  numbered : ∀ (i : ℕ) a, r.attempts[i]? = some a → a.attemptNo = i + 1 ∧ a.fence = i + 1
  fenced : r.currentFence = r.attempts.length
  committed : List.Forall₂ (fun (s : Assignment) (a : Attempt) => s.id = a.assignmentId ∧
    s.worker = a.worker ∧ s.specDigest = a.specDigest)
    (r.assignments.filter fun s => s.state = .committed) r.attempts
  committed_once : (r.attempts.map (·.assignmentId)).Nodup
  open_last : ∀ (i : ℕ) s, r.assignments[i]? = some s → s.state = .offered ∨ s.state = .claimed →
    i + 1 = r.assignments.length
  settled : ∀ (i : ℕ) a, r.attempts[i]? = some a → i + 1 < r.attempts.length → a.Settled
  consumed : r.retryIntents.map (fun i => some i.id) =
    r.attempts.tail.map (fun a => a.retryProvenance.map (·.retryIntentId)) ++
      r.pendingRetryIntentId.toList.map some

namespace Run

variable (r : Run)

theorem committed_nodup : (r.attempts.map (·.assignmentId)).Nodup := by
  rw [← r.history.committed_order]
  exact r.history.assignment_ids.sublist (List.filter_sublist.map _)

theorem committed_pairs : List.Forall₂ (fun (s : Assignment) (a : Attempt) =>
    s.id = a.assignmentId ∧ s.worker = a.worker ∧ s.specDigest = a.specDigest)
    (r.assignments.filter fun s => s.state = .committed) r.attempts := by
  have hids : List.Forall₂ (fun (s : Assignment) (a : Attempt) => s.id = a.assignmentId)
      (r.assignments.filter fun s => s.state = .committed) r.attempts := by
    have horder := r.history.committed_order
    rw [Fields.committedAssignmentIds, ← List.forall₂_eq_eq_eq, List.forall₂_map_left_iff,
      List.forall₂_map_right_iff] at horder
    exact horder
  rw [List.forall₂_iff_zip] at hids ⊢
  refine ⟨hids.1, fun {s a} hpair => ?_⟩
  have hid := hids.2 hpair
  obtain ⟨hs, ha⟩ := List.of_mem_zip hpair
  obtain ⟨i, hi⟩ := List.mem_iff_getElem?.mp ha
  obtain ⟨-, -, -, s', hs', -, hworker, hspec⟩ := r.history.attempt_facts hi
  obtain ⟨hmem, hid'⟩ := Keyed.find_some hs'
  have heq : s = s' :=
    Keyed.eq_of_key r.history.assignment_ids (List.mem_of_mem_filter hs) hmem (hid.trans hid'.symm)
  subst heq
  exact ⟨hid, hworker, hspec⟩

theorem consumed_intents : r.consumedIntentIds.map some =
    r.attempts.tail.map fun a => a.retryProvenance.map (·.retryIntentId) := by
  have hsome : ∀ (i : ℕ) a, r.attempts[i]? = some a → (a.retryProvenance.isSome ↔ 0 < i) := by
    intro i a ha
    have := (r.history.attempt_facts ha).2.1
    rw [a.retryProvenance_isSome]
    omega
  rw [Fields.consumedIntentIds, List.map_filterMap_some_eq_filter_map_isSome]
  cases hattempts : r.attempts with
  | nil => rfl
  | cons first rest =>
    have hfirst : first.retryProvenance.isSome = false := by
      simpa using hsome 0 first (by simp [hattempts])
    have hrest : ∀ x ∈ rest.map fun a => a.retryProvenance.map (·.retryIntentId),
        x.isSome = true := by
      simp only [List.mem_map]
      rintro _ ⟨a, ha, rfl⟩
      obtain ⟨j, hj⟩ := List.mem_iff_getElem?.mp ha
      simpa using (hsome (j + 1) a (by simpa [hattempts] using hj)).mpr j.succ_pos
    rw [List.map_cons, List.filter_cons_of_neg (by simpa using hfirst), List.tail_cons]
    exact List.filter_eq_self.mpr hrest

/-- No combination of history, pointers and intents that a Run accepts breaks exclusivity. -/
theorem run_exclusive : r.Exclusive where
  numbered i a ha := ⟨(r.history.attempt_facts ha).2.1, (r.history.attempt_facts ha).2.2.1⟩
  fenced := r.history.currentFence_eq
  committed := r.committed_pairs
  committed_once := r.committed_nodup
  open_last i s hs hopen := r.history.open_last hs hopen
  settled i a ha hi := by
    obtain ⟨next, hnext⟩ : ∃ next, r.attempts[i + 1]? = some next :=
      ⟨_, List.getElem?_eq_getElem hi⟩
    obtain ⟨-, intent, source, -, -, -, hsource, hauthority⟩ := r.history.retry_facts hnext
    rw [ha] at hsource
    cases hsource
    exact Fields.settled_of_authority hauthority
  consumed := by
    have hconsumption := (Fields.postInit_eq_ok r.accepted).2.2.2.2.2
    rw [Fields.validateRetryIntentConsumption, invalidRunIf_eq_ok, not_not] at hconsumption
    have hmap := congrArg (List.map some) hconsumption
    rw [List.map_append, r.consumed_intents, List.map_map] at hmap
    exact hmap

end Run
end QaRunner
