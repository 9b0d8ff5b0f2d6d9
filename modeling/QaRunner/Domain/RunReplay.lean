import QaRunner.Domain.RunCancellation

/-! Replays: a command that succeeded is issued again, with its now stale versions, on the Run it
left. -/
namespace QaRunner
open Guarded Aggregate

namespace Attempt

variable {a b : Attempt} {v w : ℤ}

/-- The fields that name an attempt and its holder. -/
structure SameHolder (a b : Attempt) : Prop where
  id : b.id = a.id
  runId : b.runId = a.runId
  fence : b.fence = a.fence
  worker : b.worker = a.worker

theorem SameHolder.refl (a : Attempt) : SameHolder a a := ⟨rfl, rfl, rfl, rfl⟩

theorem ensureAuthority_sameHolder {authority : AttemptAuthority} {worker : WorkerRef} {fence : ℤ}
    (h : SameHolder a b) (ha : a.ensureAuthority authority worker fence = .ok ()) :
    b.ensureAuthority authority worker fence = .ok () := by
  rw [ensureAuthority_eq_ok, h.fence, h.worker]
  exact ensureAuthority_eq_ok.mp ha

theorem markUnknown_replay {observation : UnknownObservation} {authority : AttemptAuthority}
    (h : a.markUnknown observation authority v = .ok b) :
    SameHolder a b ∧ b.markUnknown observation authority w = .ok b := by
  obtain ⟨hauthority, ⟨hstored, rfl⟩ | ⟨-, -, -, hnext⟩⟩ := markUnknown_eq_ok.mp h
  · exact ⟨.refl b, markUnknown_eq_ok.mpr ⟨hauthority, Or.inl ⟨hstored, rfl⟩⟩⟩
  · have hholder : SameHolder a b := by constructor <;> rw [hnext]
    refine ⟨hholder, markUnknown_eq_ok.mpr ⟨?_, Or.inl ⟨by rw [hnext], rfl⟩⟩⟩
    rw [hholder.worker, hholder.fence]
    exact ensureAuthority_sameHolder hholder hauthority

theorem appendUnknownAdjudication_replay {adjudication : UnknownAdjudication}
    (h : a.appendUnknownAdjudication adjudication v = .ok b) :
    SameHolder a b ∧ b.appendUnknownAdjudication adjudication w = .ok b := by
  rcases appendUnknownAdjudication_eq_ok.mp h with ⟨hfound, rfl⟩ | ⟨hnone, -, hnext⟩
  · exact ⟨.refl b, appendUnknownAdjudication_eq_ok.mpr (Or.inl ⟨hfound, rfl⟩)⟩
  · refine ⟨by constructor <;> rw [hnext], appendUnknownAdjudication_eq_ok.mpr (Or.inl ⟨?_, rfl⟩)⟩
    have hnone' := hnone
    unfold findAdjudication at hnone' ⊢
    rw [hnext, List.find?_append, hnone']
    simp

theorem recordEvent_replay {event : AttemptEvent} {authority : AttemptAuthority}
    {worker : WorkerRef} {fence : ℤ} (h : a.recordEvent event authority worker fence v = .ok b) :
    SameHolder a b ∧ b.recordEvent event authority worker fence w = .ok b := by
  obtain ⟨hauthority, ⟨hfound, rfl⟩ | ⟨hnone, -, -, -, hnext⟩⟩ := recordEvent_eq_ok.mp h
  · exact ⟨.refl b, recordEvent_eq_ok.mpr ⟨hauthority, Or.inl ⟨hfound, rfl⟩⟩⟩
  · have hholder : SameHolder a b := by constructor <;> rw [hnext]
    refine ⟨hholder, recordEvent_eq_ok.mpr
      ⟨ensureAuthority_sameHolder hholder hauthority, Or.inl ⟨?_, rfl⟩⟩⟩
    unfold findEvent at hnone ⊢
    rw [hnext, List.find?_append, hnone]
    simp

theorem finalizeWith_replay {report : EvidenceReport} {stop : Option TrustedCancellationStop}
    {result : FinalizeEvidenceResult} (h : a.finalizeWith report stop v = .ok result) :
    SameHolder a result.attempt ∧ result.attempt.finalizeWith report stop w =
      .ok ⟨result.attempt, result.evidence, true⟩ := by
  obtain ⟨hauthority, hbuild, hroot, ⟨-, hsame, hstored⟩ | ⟨-, -, -, -, -, hnext⟩⟩ :=
    finalizeWith_eq_ok.mp h
  · rw [hsame]
    exact ⟨.refl a, finalizeWith_eq_ok.mpr
      ⟨hauthority, hbuild, hroot, Or.inl ⟨rfl, rfl, hstored⟩⟩⟩
  · have hholder : SameHolder a result.attempt := by constructor <;> rw [hnext]
    refine ⟨hholder, finalizeWith_eq_ok.mpr
      ⟨ensureAuthority_sameHolder hholder hauthority, ?_, hroot, Or.inl ⟨rfl, rfl, ?_⟩⟩⟩
    · rw [← hbuild]
      simp only [rebuild, evidenceInput, hnext]
    · rw [hnext]

end Attempt

/-- The Run and the strings the caller of a cancellation chooses are valid Unicode. -/
def CancellationIntent.Encodable (i : CancellationIntent) : Prop :=
  i.runId.isUnicode = true ∧ i.idempotencyKey.isUnicode = true ∧ i.actorId.isUnicode = true ∧
    i.reason.isUnicode = true

theorem CancellationIntent.requestDigest_iff {i : CancellationIntent} :
    (∃ digest, i.requestDigest = .ok digest) ↔ i.Encodable := by
  simp only [requestDigest, canonicalDigest_eq_ok, exists_and_left, exists_eq', and_true,
    validateJsonValue_dict, validateJsonFields_cons, validateJsonFields_nil, validateJsonValue_str,
    validateJsonValue_text, true_and, Encodable]

/-- The id and the generation can both stand in a digest. -/
def WorkerRef.Digestible (w : WorkerRef) : Prop :=
  w.workerId.isUnicode = true ∧ SafeInt w.generation

/-- The request digest of a closure is defined when its strings are valid Unicode and its worker,
if any, can stand in it. -/
theorem AssignmentClosure.requestDigest_iff {c : AssignmentClosure} :
    (∃ digest, c.requestDigest = .ok digest) ↔ c.assignmentId.isUnicode = true ∧
      c.idempotencyKey.isUnicode = true ∧ ∀ worker ∈ c.worker, worker.Digestible := by
  simp only [requestDigest, canonicalDigest_eq_ok, exists_and_left, exists_eq', and_true,
    validateJsonValue_dict, validateJsonFields_cons, validateJsonFields_nil, validateJsonValue_str,
    validateJsonValue_text, true_and]
  cases c.worker with
  | none => simp [Json.opt, validateJsonValue]
  | some worker => simp [Json.opt, WorkerRef.payload, WorkerRef.Digestible]

theorem Assignment.closePrestart_ok {a b : Assignment} {closure : AssignmentClosure}
    (h : a.closePrestart closure = .ok b) : b.toFields = { a.toFields with
      state := closure.kind.state
      closure := some closure } := by
  simp only [closePrestart, then_eq_ok, Assignment.new, construct_eq_ok] at h
  obtain ⟨-, -, rfl⟩ := h
  rfl

namespace Run

variable {r r' : Run} {v w : ℤ}

theorem Fields.assignment_some {r : Run.Fields} {current : Assignment}
    (h : r.assignment = some current) :
    r.currentAssignmentId = some current.id ∧ current ∈ r.assignments := by
  unfold assignment at h
  split at h
  · next id hid =>
    obtain ⟨hmem, hkey⟩ := Keyed.find_reverse_some h
    exact ⟨by rw [hid, hkey], hmem⟩
  · cases h

/-- The latest attempt, amended and kept in place, is still the current one. -/
theorem currentAttempt_amended {attemptId : Str} {current updated : Attempt}
    (hcurrent : r.currentAttempt attemptId = .ok current)
    (hholder : Attempt.SameHolder current updated) (hid : r'.id = r.id)
    (hfence : r'.currentFence = r.currentFence)
    (hattempts : r'.attempts = r.attempts.dropLast ++ [updated]) :
    r'.currentAttempt attemptId = .ok updated := by
  obtain ⟨-, hcid, hrun, hcf⟩ := currentAttempt_eq_ok.mp hcurrent
  refine currentAttempt_eq_ok.mpr ⟨by simp [hattempts], ?_, ?_, ?_⟩
  · rw [hholder.id, hcid]
  · rw [hholder.runId, hrun, hid]
  · rw [hholder.fence, hcf, hfence]

/-- A Run without a reservation stores an intent before any digest of it is made. -/
theorem requestCancel_replay {cancelKey actorId reason : Str} {source : CancellationSource}
    {observedAt : Datetime}
    (h : r.requestCancel cancelKey source actorId reason observedAt v = .ok r') (hne : r' ≠ r) :
    r'.requestCancel cancelKey source actorId reason observedAt v = .ok r' ↔
      r.id.isUnicode = true ∧ cancelKey.isUnicode = true ∧ actorId.isUnicode = true ∧
        reason.isUnicode = true := by
  obtain ⟨intent, hintent, hsame | ⟨-, hrecord⟩⟩ := requestCancel_ok h
  · exact absurd hsame hne
  · obtain ⟨-, state, assignments, current, hnext⟩ := recordCancel_ok hrecord
    have hreplay : r'.requestCancel cancelKey source actorId reason observedAt v = .ok r' ↔
        ∃ digest, intent.requestDigest = .ok digest := by
      simp only [requestCancel, hnext, hintent, ok_bind, replayCancel_eq_ok, and_self, true_and,
        and_true]
    rw [hreplay, CancellationIntent.requestDigest_iff, CancellationIntent.Encodable]
    simp only [CancellationIntent.new, construct_eq_ok] at hintent
    obtain ⟨-, rfl⟩ := hintent
    exact Iff.rfl

theorem commitStart_replay {assignmentId startCommitKey newAttemptId : Str} {worker : WorkerRef}
    {specDigest : Digest} {observedAt : Datetime} {result : CommitStartResult}
    (h : r.commitStart assignmentId worker startCommitKey specDigest newAttemptId observedAt v =
      .ok result) (hne : result.run ≠ r) :
    result.run.commitStart assignmentId worker startCommitKey specDigest newAttemptId observedAt v =
      .ok ⟨result.run, result.attempt, result.attempt.fence, true⟩ := by
  obtain ⟨received, hreceived, hsame | ⟨hkey, hclaimed⟩⟩ := commitStart_ok h
  · exact absurd hsame hne
  obtain ⟨-, -, provenance, current, committed, assignments, hattempt, ⟨hcurrent, hid⟩, -, -,
    hnext⟩ := commitClaimed_ok hclaimed
  have hattempt := Attempt.new_eq_ok.mp hattempt
  have hfind : result.run.attemptByKey startCommitKey = some result.attempt := by
    unfold attemptByKey at hkey ⊢
    rw [hnext, List.find?_append, hkey]
    simp [hattempt]
  -- a running Run points at a committed reservation, and the pointer did not move
  have hrunning := result.run.statePointers.1
  simp only [Fields.validateState, hnext, then_eq_ok, invalidRunIf_eq_ok, not_not] at hrunning
  obtain ⟨⟨held, hheld, hcommitted⟩, -⟩ := hrunning
  have hheldId : held.id = assignmentId := by
    have hpointer := (Fields.assignment_some hheld).1
    simp only [(Fields.assignment_some hcurrent).1, Option.some.injEq] at hpointer
    rw [← hpointer, hid]
  rw [commitStart, hreceived, ok_bind, hfind]
  refine replayCommit_eq_ok.mpr ⟨?_, ?_, by rw [hnext], ⟨held, ?_, ?_, hcommitted⟩, ?_, ?_, rfl⟩
  · rw [hattempt]
    exact hreceived
  · rw [hattempt, hnext]
  · rw [hnext]
    exact hheld
  · rw [hheldId, hattempt]
  · rw [hnext]
    simp
  · rw [hattempt]
    simp

/-- A closed reservation is found again with its closure and its window unchanged. -/
theorem closeOpen_stored {closure : AssignmentClosure} (h : r.closeOpen closure v = .ok r') :
    ∃ current closed, r.assignmentById closure.assignmentId = some current ∧
      r'.assignmentById closure.assignmentId = some closed ∧
      closed.expiresAt = current.expiresAt ∧ closed.closure = some closure := by
  obtain ⟨-, -, current, closed, assignments, state, ⟨hcurrent, hid⟩, hclosed, hreplaced, hnext⟩ :=
    closeOpen_ok h
  have hclosed := Assignment.closePrestart_ok hclosed
  obtain ⟨-, -, hassignments⟩ := replaceCurrentAssignment_eq_ok.mp hreplaced
  have hmem := (Fields.assignment_some hcurrent).2
  have hcid : closed.id = current.id := by rw [hclosed]
  refine ⟨current, closed, ?_, ?_, by rw [hclosed], by rw [hclosed]⟩
  · rw [← hid]
    exact Keyed.find_of_mem r.history.assignment_ids hmem
  · rw [Fields.assignmentById, hnext, hassignments, ← hid, ← hcid]
    exact Keyed.find_replace hmem hcid

/-- Issuing the same closure again finds it stored; the replay compares its request digest. -/
theorem closePrecommit_replay {closure : AssignmentClosure} (h : r.closeOpen closure v = .ok r') :
    r'.closePrecommitAssignment closure w = .ok r' ↔
      ∃ digest, closure.requestDigest = .ok digest := by
  obtain ⟨-, closed, -, hfound, -, hstored⟩ := closeOpen_stored h
  rw [closePrecommitAssignment, hfound, Option.bind_some, hstored]
  constructor
  · intro hreplay
    obtain ⟨-, ⟨digest, hdigest, -⟩, -⟩ := replayClosure_eq_ok.mp hreplay
    exact ⟨digest, hdigest⟩
  · rintro ⟨digest, hdigest⟩
    exact replayClosure_eq_ok.mpr ⟨rfl, ⟨digest, hdigest, hdigest⟩, rfl⟩

theorem expire_replay {assignmentId expiryKey : Str} {observedAt : Datetime}
    (h : r.expirePrecommitAssignment assignmentId expiryKey observedAt v = .ok r') (hne : r' ≠ r) :
    r'.expirePrecommitAssignment assignmentId expiryKey observedAt v = .ok r' ↔
      assignmentId.isUnicode = true ∧ expiryKey.isUnicode = true := by
  obtain ⟨hutc, closure, hclosure, hclose⟩ := expirePrecommitAssignment_eq_ok.mp h
  rcases closePrecommitAssignment_ok hclose with hsame | ⟨-, hopen⟩
  · exact absurd hsame hne
  have hnew := hclosure
  simp only [AssignmentClosure.new, construct_eq_ok] at hnew
  obtain ⟨_, rfl⟩ := hnew
  obtain ⟨current, closed, hbefore, hafter, hexpires, -⟩ := closeOpen_stored hopen
  simp only at hbefore hafter
  have heffective : r'.expiryEffectiveAt assignmentId observedAt =
      r.expiryEffectiveAt assignmentId observedAt := by
    simp only [expiryEffectiveAt, hbefore, hafter, hexpires]
  rw [expirePrecommitAssignment_eq_ok, heffective, hclosure]
  simp only [hutc, Except.ok.injEq, exists_eq_left', true_and, closePrecommit_replay hopen,
    AssignmentClosure.requestDigest_iff, Option.not_mem_none, false_implies, implies_true,
    and_true]

theorem release_replay {assignmentId releaseKey : Str} {worker : WorkerRef}
    {observedAt : Datetime}
    (h : r.releasePrecommitAssignment assignmentId worker releaseKey observedAt v = .ok r')
    (hne : r' ≠ r) :
    r'.releasePrecommitAssignment assignmentId worker releaseKey observedAt v = .ok r' ↔
      assignmentId.isUnicode = true ∧ releaseKey.isUnicode = true ∧ worker.Digestible := by
  obtain ⟨hutc, closure, hclosure, hclose⟩ := releasePrecommitAssignment_eq_ok.mp h
  rcases closePrecommitAssignment_ok hclose with hsame | ⟨-, hopen⟩
  · exact absurd hsame hne
  have hnew := hclosure
  simp only [AssignmentClosure.new, construct_eq_ok] at hnew
  obtain ⟨_, rfl⟩ := hnew
  rw [releasePrecommitAssignment_eq_ok, hclosure]
  simp only [hutc, Except.ok.injEq, exists_eq_left', true_and, closePrecommit_replay hopen,
    AssignmentClosure.requestDigest_iff, Option.mem_def, Option.some.injEq, forall_eq']

theorem markCurrentAttemptUnknown_replay {attemptId : Str} {observation : UnknownObservation}
    (h : r.markCurrentAttemptUnknown attemptId observation v w = .ok r') :
    r'.markCurrentAttemptUnknown attemptId observation v w = .ok r' := by
  obtain ⟨current, authority, unknown, hcurrent, hauthority, hunknown, ⟨-, rfl⟩ | ⟨-, hamend⟩⟩ :=
    markCurrentAttemptUnknown_eq_ok.mp h
  · exact h
  · obtain ⟨-, hnext⟩ := amendLatest_eq_ok.mp hamend
    obtain ⟨hholder, hreplay⟩ := Attempt.markUnknown_replay (w := w) hunknown
    refine markCurrentAttemptUnknown_eq_ok.mpr ⟨unknown, authority, unknown, ?_, ?_, hreplay,
      Or.inl ⟨rfl, rfl⟩⟩
    · exact currentAttempt_amended hcurrent hholder (by rw [hnext]) (by rw [hnext]) (by rw [hnext])
    · rw [hholder.worker, hnext]
      exact hauthority

theorem markCancelStopUnproven_replay {attemptId observationId : Str} {recordedAt : Datetime}
    (h : r.markCancelStopUnproven attemptId observationId recordedAt v w = .ok r') :
    r'.markCancelStopUnproven attemptId observationId recordedAt v w = .ok r' := by
  obtain ⟨intent, digest, observation, hintent, hutc, hafter, hdigest, hobservation, hmark⟩ :=
    markCancelStopUnproven_eq_ok.mp h
  refine markCancelStopUnproven_eq_ok.mpr ⟨intent, digest, observation, ?_, hutc, hafter, hdigest,
    hobservation, markCurrentAttemptUnknown_replay hmark⟩
  obtain ⟨_, _, unknown, -, -, -, ⟨-, rfl⟩ | ⟨-, hamend⟩⟩ :=
    markCurrentAttemptUnknown_eq_ok.mp hmark
  · exact hintent
  · rw [(amendLatest_eq_ok.mp hamend).2]
    exact hintent

theorem recordCurrentAttemptEvent_replay {attemptId : Str} {event : AttemptEvent}
    {authority : AttemptAuthority} {worker : WorkerRef} {fence : ℤ}
    (h : r.recordCurrentAttemptEvent attemptId event authority worker fence v w = .ok r') :
    r'.recordCurrentAttemptEvent attemptId event authority worker fence v w = .ok r' := by
  obtain ⟨current, updated, hcurrent, hupdated, ⟨-, rfl⟩ | ⟨-, hamend⟩⟩ :=
    recordCurrentAttemptEvent_eq_ok.mp h
  · exact h
  · obtain ⟨-, hnext⟩ := amendLatest_eq_ok.mp hamend
    obtain ⟨hholder, hreplay⟩ := Attempt.recordEvent_replay (w := w) hupdated
    refine recordCurrentAttemptEvent_eq_ok.mpr ⟨updated, updated, ?_, hreplay, Or.inl ⟨rfl, rfl⟩⟩
    exact currentAttempt_amended hcurrent hholder (by rw [hnext]) (by rw [hnext]) (by rw [hnext])

theorem finalizeCurrentAttemptEvidence_replay {attemptId : Str} {report : EvidenceReport}
    {result : FinalizeAttemptResult}
    (h : r.finalizeCurrentAttemptEvidence attemptId report v w = .ok result)
    (hne : result.run ≠ r) :
    result.run.finalizeCurrentAttemptEvidence attemptId report v w =
      .ok ⟨result.run, result.attempt, result.evidence, true⟩ := by
  obtain ⟨current, finalized, hcurrent, hfinalized, ⟨-, rfl⟩ | ⟨-, updated, hamend, rfl⟩⟩ :=
    finalizeCurrentAttemptEvidence_eq_ok.mp h
  · exact absurd rfl hne
  · obtain ⟨-, hnext⟩ := amendLatest_eq_ok.mp hamend
    obtain ⟨hholder, hreplay⟩ := Attempt.finalizeWith_replay (w := w) hfinalized
    refine finalizeCurrentAttemptEvidence_eq_ok.mpr
      ⟨finalized.attempt, _, ?_, hreplay, Or.inl ⟨rfl, rfl⟩⟩
    exact currentAttempt_amended hcurrent hholder (by rw [hnext]) (by rw [hnext]) (by rw [hnext])

theorem finalizeCancelledAttemptEvidence_replay {attemptId : Str} {report : EvidenceReport}
    {stop : TrustedCancellationStop} {result : FinalizeAttemptResult}
    (h : r.finalizeCancelledAttemptEvidence attemptId report stop v w = .ok result)
    (hne : result.run ≠ r) :
    result.run.finalizeCancelledAttemptEvidence attemptId report stop v w =
      .ok ⟨result.run, result.attempt, result.evidence, true⟩ := by
  obtain ⟨intent, digest, current, finalized, hintent, hdigest, hbound, hafter, hcurrent,
    hfinalized, ⟨-, -, -, rfl⟩ | ⟨-, -, -, hnext, hresult⟩⟩ :=
    finalizeCancelledAttemptEvidence_eq_ok.mp h
  · exact absurd rfl hne
  · obtain ⟨hholder, hreplay⟩ := Attempt.finalizeWith_replay (w := w) hfinalized
    have hattempt : result.attempt = finalized.attempt := by rw [hresult]
    have hevidence : result.evidence = finalized.evidence := by rw [hresult]
    rw [hattempt, hevidence]
    refine finalizeCancelledAttemptEvidence_eq_ok.mpr ⟨intent, digest, finalized.attempt, _, ?_,
      hdigest, hbound, hafter, ?_, hreplay, Or.inl ⟨?_, ?_, rfl, rfl⟩⟩
    · rw [hnext]
      exact hintent
    · exact currentAttempt_amended hcurrent hholder (by rw [hnext]) (by rw [hnext]) (by rw [hnext])
    · rw [hnext]
    · rw [hnext]

theorem appendCurrentUnknownAdjudication_replay {attemptId : Str}
    {adjudication : UnknownAdjudication}
    (h : r.appendCurrentUnknownAdjudication attemptId adjudication v w = .ok r') :
    r'.appendCurrentUnknownAdjudication attemptId adjudication v w = .ok r' := by
  obtain ⟨current, adjudicated, hcurrent, hadjudicated, ⟨-, rfl⟩ | ⟨-, -, -, hamend⟩⟩ :=
    appendCurrentUnknownAdjudication_eq_ok.mp h
  · exact h
  · obtain ⟨-, hnext⟩ := amendLatest_eq_ok.mp hamend
    obtain ⟨hholder, hreplay⟩ := Attempt.appendUnknownAdjudication_replay (w := w) hadjudicated
    refine appendCurrentUnknownAdjudication_eq_ok.mpr
      ⟨adjudicated, adjudicated, ?_, hreplay, Or.inl ⟨rfl, rfl⟩⟩
    exact currentAttempt_amended hcurrent hholder (by rw [hnext]) (by rw [hnext]) (by rw [hnext])

/-- A queued intent is found again by its id. -/
theorem queueIntent_stored {intent : RetryIntent} (hnone : r.retryIntentById intent.id = none)
    (h : r.queueIntent intent v = .ok r') : r'.retryIntentById intent.id = some intent := by
  obtain ⟨-, hnext⟩ := queueIntent_eq_ok.mp h
  unfold Fields.retryIntentById at hnone ⊢
  rw [hnext, List.find?_append, hnone]
  simp

theorem replayRetry_self {intent : RetryIntent} :
    r.replayRetry intent intent = .ok r ↔ ∃ digest, intent.digest = .ok digest := by
  rw [replayRetry_eq_ok]
  simp only [and_self, and_true]

theorem queueAdjudicatedRetry_replay {intent : RetryIntent}
    (h : r.queueAdjudicatedRetry intent v = .ok r') (hne : r' ≠ r) :
    r'.queueAdjudicatedRetry intent v = .ok r' ↔ ∃ digest, intent.digest = .ok digest := by
  rcases queueAdjudicatedRetry_ok h with hsame | ⟨hnone, -, -, hqueue⟩
  · exact absurd hsame hne
  · rw [queueAdjudicatedRetry, queueIntent_stored hnone hqueue]
    exact replayRetry_self

theorem queuePolicyRetry_replay {intent : RetryIntent} {decision : RunRetryDecision}
    (h : r.queuePolicyRetry intent decision v = .ok r') :
    r'.queuePolicyRetry intent decision v = .ok r' := by
  rcases queuePolicyRetry_ok h with rfl | ⟨hnone, -, -, ⟨-, digest, hdigest, -⟩, hqueue⟩
  · exact h
  · rw [queuePolicyRetry, queueIntent_stored hnone hqueue]
    exact replayRetry_self.mpr ⟨digest, hdigest⟩

/-- The commands that carry an identity to replay by. -/
def Command.idempotent : Command → Bool
  | .transition .. | .offerAssignment .. | .claimAssignment .. | .transitionCurrentAttempt .. =>
    false
  | _ => true

/-- The digest a replay of the command compares is defined. Four commands reach that digest only in
the replay: a cancellation, the two closures of a reservation, and an adjudicated retry. -/
def Command.Replayable (r : Run) : Command → Prop
  | .requestCancel cancelKey _ actorId reason _ _ => r.id.isUnicode = true ∧
    cancelKey.isUnicode = true ∧ actorId.isUnicode = true ∧ reason.isUnicode = true
  | .expirePrecommitAssignment assignmentId expiryKey _ _ =>
    assignmentId.isUnicode = true ∧ expiryKey.isUnicode = true
  | .releasePrecommitAssignment assignmentId worker releaseKey _ _ =>
    assignmentId.isUnicode = true ∧ releaseKey.isUnicode = true ∧ worker.Digestible
  | .queueAdjudicatedRetry intent _ => ∃ digest, intent.digest = .ok digest
  | _ => True

/-- A command that succeeded and is issued again on the Run it left returns that Run, unless it
changed the Run and the digest its replay compares is undefined. -/
theorem replay_iff {c : Command} (hidempotent : c.idempotent = true) (h : r.exec c = .ok r') :
    r'.exec c = .ok r' ↔ r' = r ∨ c.Replayable r := by
  by_cases hne : r' = r
  · subst hne
    exact ⟨fun _ => Or.inl rfl, fun _ => h⟩
  simp only [hne, false_or]
  cases c with
  | transition | offerAssignment | claimAssignment | transitionCurrentAttempt =>
    simp [Command.idempotent] at hidempotent
  | requestCancel => exact requestCancel_replay h hne
  | commitStart =>
    obtain ⟨result, hresult, rfl⟩ := exec_commitStart.mp h
    exact iff_of_true (exec_commitStart.mpr ⟨_, commitStart_replay hresult hne, rfl⟩) trivial
  | expirePrecommitAssignment => exact expire_replay h hne
  | releasePrecommitAssignment => exact release_replay h hne
  | markCurrentAttemptUnknown => exact iff_of_true (markCurrentAttemptUnknown_replay h) trivial
  | recordCurrentAttemptEvent => exact iff_of_true (recordCurrentAttemptEvent_replay h) trivial
  | finalizeCurrentAttemptEvidence =>
    obtain ⟨result, hresult, rfl⟩ := exec_finalizeCurrent.mp h
    exact iff_of_true (exec_finalizeCurrent.mpr
      ⟨_, finalizeCurrentAttemptEvidence_replay hresult hne, rfl⟩) trivial
  | markCancelStopUnproven => exact iff_of_true (markCancelStopUnproven_replay h) trivial
  | finalizeCancelledAttemptEvidence =>
    obtain ⟨result, hresult, rfl⟩ := exec_finalizeCancelled.mp h
    exact iff_of_true (exec_finalizeCancelled.mpr
      ⟨_, finalizeCancelledAttemptEvidence_replay hresult hne, rfl⟩) trivial
  | queueAdjudicatedRetry => exact queueAdjudicatedRetry_replay h hne
  | queuePolicyRetry => exact iff_of_true (queuePolicyRetry_replay h) trivial
  | appendCurrentUnknownAdjudication =>
    exact iff_of_true (appendCurrentUnknownAdjudication_replay h) trivial

/-- A generation past the integers a canonical payload admits. -/
def distantWorker : WorkerRef := ⟨⟨"worker-1", 9007199254740992⟩, by decide⟩

def distantOffer : Assignment where
  id := "assignment-1"
  worker := distantWorker
  specDigest := Digest.zero
  state := .offered
  offeredAt := ⟨1000000, some 0⟩
  expiresAt := ⟨9000000, some 0⟩
  accepted := by decide

/-- A Run whose one reservation is offered to that worker. -/
def offeredRun : Run where
  id := "run-1"
  state := .assigned
  version := 2
  currentFence := 0
  assignments := [distantOffer]
  currentAssignmentId := some "assignment-1"
  attempts := []
  retryIntents := []
  pendingRetryIntentId := none
  accepted := by decide

def release : Command :=
  .releasePrecommitAssignment "assignment-1" distantWorker "release-1" ⟨2000000, some 0⟩ 2

theorem release_not_replayable :
    ¬ ∀ (r : Run) (c : Command) (r' : Run), c.idempotent = true → r.exec c = .ok r' →
      r'.exec c = .ok r' := by
  intro hall
  have hreplay : (do let r' ← offeredRun.exec release; r'.exec release) =
      .error (.canonicalization "$.payload.worker.generation"
        "integer exceeds I-JSON safe range") := by decide +kernel
  cases h : offeredRun.exec release with
  | error e =>
    have hfirst : (offeredRun.exec release).toBool = true := by decide +kernel
    rw [h] at hfirst
    cases hfirst
  | ok r' =>
    rw [h, ok_bind, hall _ _ _ rfl h] at hreplay
    cases hreplay

def expire : Command := .expirePrecommitAssignment "assignment-1" "expiry-1" ⟨9000000, some 0⟩ 2

theorem expire_replays : ∃ r', offeredRun.exec expire = .ok r' ∧ r' ≠ offeredRun ∧
    r'.exec expire = .ok r' := by
  have hfirst : (offeredRun.exec expire).toBool = true := by decide +kernel
  cases h : offeredRun.exec expire with
  | error e =>
    rw [h] at hfirst
    cases hfirst
  | ok r' =>
    refine ⟨r', rfl, ?_, (replay_iff rfl h).mpr (Or.inr ⟨rfl, rfl⟩)⟩
    rintro rfl
    have hchanged : offeredRun.exec expire ≠ .ok offeredRun := by decide +kernel
    exact hchanged h

end Run
end QaRunner
