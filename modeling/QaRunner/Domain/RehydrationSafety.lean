import QaRunner.Domain.RunHistory
import QaRunner.Domain.RunRehydration
import QaRunner.Lib.Failures

/-! Constructing a Run does not crash: behind the checks that come before it every access finds what
it reads, and what is left of the errors are those of the domain. -/
namespace QaRunner
open Guarded

section
variable {a b : Datetime}

theorem Assignment.offeredAt_utc (s : Assignment) : s.offeredAt.IsUtc := by
  have h := s.accepted
  simp only [Fields.postInit, then_eq_ok, requireUtc_eq_ok] at h
  exact h.2.1

theorem Assignment.committedAt_utc (s : Assignment) (h : s.committedAt = some a) : a.IsUtc := by
  have hs := s.accepted
  simp only [Fields.postInit, then_eq_ok, whenSome_eq_ok, requireUtc_eq_ok] at hs
  exact hs.2.2.2.2.2.1 a h

theorem AssignmentClosure.recordedAt_utc (c : AssignmentClosure) : c.recordedAt.IsUtc := by
  have h := c.accepted
  simp only [Fields.postInit, then_eq_ok, requireUtc_eq_ok] at h
  exact h.2.2.2.1

theorem RetryIntent.createdAt_utc (i : RetryIntent) : i.createdAt.IsUtc := by
  have h := i.accepted
  simp only [Fields.postInit, then_eq_ok, requireUtc_eq_ok] at h
  exact h.2.2.2

theorem UnknownObservation.recordedAt_utc (o : UnknownObservation) : o.recordedAt.IsUtc := by
  have h := o.accepted
  simp only [Fields.postInit, then_eq_ok, requireUtc_eq_ok] at h
  exact h.2

theorem UnknownAdjudication.occurredAt_utc (d : UnknownAdjudication) : d.occurredAt.IsUtc := by
  have h := d.accepted
  simp only [Fields.postInit, then_eq_ok, requireUtc_eq_ok] at h
  exact h.2.2.2.2.1

theorem CancellationIntent.recordedAt_utc (i : CancellationIntent) : i.recordedAt.IsUtc := by
  have h := i.accepted
  simp only [Fields.postInit, then_eq_ok, requireUtc_eq_ok] at h
  exact h.2

theorem TrustedCancellationStop.stoppedAt_utc (s : TrustedCancellationStop) :
    s.processStoppedAt.IsUtc ∧ s.sutAccessStoppedAt.IsUtc := by
  have h := s.accepted
  simp only [Fields.postInit, then_eq_ok, each_eq_ok, requireUtc_eq_ok, List.forall_mem_cons] at h
  exact ⟨h.2.2.1.1, h.2.2.1.2.1⟩

end

namespace Run.Rehydration

section
variable {α : Type} {xs : List α} {x y : α} {a b : Datetime} {e : DomainError}

theorem attributeOf_some : attributeOf (some x) = .ok x := rfl

theorem item_zero : item (x :: xs) 0 = .ok x := rfl

theorem ne_nil_of_last (h : xs.getLast? = some x) : xs ≠ [] := by
  rintro rfl
  cases h

theorem exists_last (h : xs ≠ []) : ∃ x, xs.getLast? = some x :=
  Option.ne_none_iff_exists'.mp (mt List.getLast?_eq_none_iff.mp h)

theorem item_last (h : xs.getLast? = some x) : item xs (-1) = .ok x := by
  have hpos : 0 < xs.length := List.length_pos_iff.mpr (ne_nil_of_last h)
  have hplace : (-1 + (xs.length : ℤ)).toNat = xs.length - 1 := by omega
  rw [List.getLast?_eq_getElem?] at h
  have hin : ¬ -1 + (xs.length : ℤ) < 0 := by omega
  simp only [item, Int.reduceNeg, Int.reduceLT, if_true, if_neg hin, hplace, h, need]

theorem item_of_nat {n : ℕ} {i : ℤ} (hi : i = n) :
    item xs i = need xs[n]? (.crash .indexError) := by
  subst hi
  simp [item, show ¬ (n : ℤ) < 0 by omega]

/-- Two instants on the UTC clock can be compared. -/
theorem isBefore_utc (ha : a.IsUtc) (hb : b.IsUtc) : isBefore (some a) (some b) = test (a < b) := by
  rw [Datetime.IsUtc] at ha hb
  simp only [isBefore, need, ok_bind, ha, hb, test, Except.ok.injEq, decide_eq_decide,
    Datetime.lt_def]
  omega

theorem firstOf_utc (ha : a.IsUtc) (hb : b.IsUtc) : firstOf a b = .ok (a.earlier b) := by
  rw [firstOf, isBefore_utc hb ha, test, ok_bind, Datetime.earlier]
  by_cases hlt : b < a
  · simp [hlt, pure, Except.pure]
  · simp [hlt, pure, Except.pure]

theorem exceptCaught_eq {x : Result α} (h : FailsIn (caught · = true) x) :
    exceptCaught x e = orFail x e := by
  cases x with
  | ok a => rfl
  | error e' => simp only [exceptCaught, orFail, h e' rfl, if_true]

end

section
variable {α : Type} {field : String} {pointer : Option Str} {key : α → Str} {xs : List α}

theorem validatePointer_eq :
    validatePointer field pointer key xs = Fields.validatePointer field pointer (xs.map key) := by
  cases pointer with
  | none => rfl
  | some current =>
    cases hlast : xs.getLast? with
    | none =>
      have hnil : xs = [] := List.getLast?_eq_none_iff.mp hlast
      simp [validatePointer, Fields.validatePointer, whenSome, hnil, invalidRunIf, raiseIf,
        error_bind]
    | some x =>
      have hlast' : (xs.map key).getLast? = some (key x) := by
        rw [List.getLast?_map, hlast, Option.map_some]
      simp only [validatePointer, Fields.validatePointer, whenSome, raiseWhen_anyOf_test,
        item_last hlast, ok_bind, raiseWhen_anyOf_nil, bind_ok_unit, hlast', raiseIf,
        ne_nil_of_last hlast, if_false, invalidRunIf, ne_eq, Option.some.injEq]

end

section
variable {r : Run.Fields} {index : ℕ} {attempt previous : Attempt} {assignment : Assignment}

theorem validateRetryChain_eq (hprevious : item r.attempts (index - 2) = .ok previous) :
    validateRetryChain r index attempt assignment =
      r.validateRetryChain attempt assignment (some previous) := by
  cases hprovenance : attempt.retryProvenance with
  | none =>
    simp only [validateRetryChain, Fields.validateRetryChain, hprovenance, invalidRunIf,
      Option.isNone_none, raiseIf_true, need, error_bind]
  | some provenance =>
    simp only [validateRetryChain, Fields.validateRetryChain, hprovenance, invalidRunIf,
      Option.isNone_some, Bool.false_eq_true, raiseIf_false, ok_bind, attributeOf_some, need,
      hprevious]
    cases hintent : r.retryIntentById provenance.retryIntentId with
    | none => simp only [raiseWhen_anyOf_test, Option.isNone_none, raiseIf_true, error_bind]
    | some intent =>
      cases hsource : r.attemptById provenance.sourceAttemptId with
      | none =>
        simp only [raiseWhen_anyOf_test, Option.isNone_some, Option.isNone_none,
          Bool.false_eq_true, raiseIf_false, raiseIf_true, ok_bind, error_bind]
      | some source =>
        simp only [raiseWhen_anyOf_test, raiseWhen_anyOf_bind, Option.isNone_some,
          Bool.false_eq_true, raiseIf_false, attributeOf_some, ok_bind, raiseWhen_anyOf_nil,
          bind_ok_unit, raiseIf_or, bind_assoc, Option.map_some, ne_eq, Option.some.injEq]
        rw [raiseIf_congr (ne_comm (a := source.id) (b := previous.id))]

theorem unknown_before_eq {e : DomainError} :
    raiseWhen (allOf [test attempt.unknownObservation.isSome, test assignment.committedAt.isSome,
      do let observation ← attributeOf attempt.unknownObservation
         isBefore (some observation.recordedAt) assignment.committedAt]) e =
      raiseIf (∃ observation ∈ attempt.unknownObservation, ∃ committed ∈ assignment.committedAt,
        observation.recordedAt < committed) e := by
  cases hobservation : attempt.unknownObservation with
  | none => simp [raiseWhen_allOf_test, whenever, raiseIf]
  | some observation =>
    cases hcommitted : assignment.committedAt with
    | none => simp [raiseWhen_allOf_test, whenever, raiseIf]
    | some committed =>
      have hbefore :=
        isBefore_utc observation.recordedAt_utc (assignment.committedAt_utc hcommitted)
      simp [raiseWhen_allOf_test, raiseWhen_allOf_nil, attributeOf_some, ok_bind, hbefore,
        whenever, raiseIf]

theorem validateAttempt_eq {before : Option Attempt}
    (hprevious : index ≠ 1 → ∃ previous, before = some previous ∧
      item r.attempts (index - 2) = .ok previous) :
    validateAttempt r index attempt = r.validateAttempt index before attempt := by
  cases hfound : r.assignmentById attempt.assignmentId with
  | none =>
    simp only [validateAttempt, Fields.validateAttempt, hfound, invalidRunIf, Option.isNone_none,
      raiseIf_true, need, error_bind]
  | some assignment =>
    simp only [validateAttempt, Fields.validateAttempt, hfound, invalidRunIf, Option.isNone_some,
      Bool.false_eq_true, raiseIf_false, ok_bind, attributeOf_some, need, unknown_before_eq]
    by_cases hindex : index = 1
    · simp only [hindex, if_true]
    · obtain ⟨previous, rfl, hitem⟩ := hprevious hindex
      simp only [hindex, if_false, validateRetryChain_eq hitem]

/-- The loop reads the attempt it looked at before. -/
theorem validateAttempts_eq : validateAttempts r = r.validateAttempts 1 none r.attempts := by
  have hloop : ∀ before rest, r.attempts = before ++ rest →
      each (rest.zipIdx (before.length + 1)) (fun a => validateAttempt r a.2 a.1) =
        r.validateAttempts (before.length + 1) before.getLast? rest := by
    intro before rest hsplit
    induction rest generalizing before with
    | nil => rfl
    | cons attempt rest ih =>
      have hhead : validateAttempt r (before.length + 1) attempt =
          r.validateAttempt (before.length + 1) before.getLast? attempt := by
        apply validateAttempt_eq
        intro hindex
        have hpos : before.length - 1 < before.length := by omega
        refine ⟨before[before.length - 1], ?_, ?_⟩
        · rw [List.getLast?_eq_getElem?, List.getElem?_eq_getElem hpos]
        · have hplace : ((before.length + 1 : ℕ) : ℤ) - 2 = (before.length - 1 : ℕ) := by omega
          rw [item_of_nat hplace, hsplit, List.getElem?_append_left hpos,
            List.getElem?_eq_getElem hpos]
          rfl
      have htail := ih (before ++ [attempt]) (by rw [hsplit, List.append_assoc]; rfl)
      rw [List.length_append, List.length_singleton, List.getLast?_concat] at htail
      rw [List.zipIdx_cons, each, hhead, Fields.validateAttempts, htail]
  exact hloop [] r.attempts rfl

end

section
variable {r : Run.Fields} {intent : RetryIntent} {source : Attempt} {assignment : Assignment}

theorem validateIntentAuthority_eq :
    validateIntentAuthority intent source = Fields.validateIntentAuthority intent source := by
  unfold validateIntentAuthority Fields.validateIntentAuthority
  cases intent.authority with
  | policy authority => rfl
  | unknownAdjudication authority =>
    cases hlast : source.adjudications.getLast? with
    | none =>
      have hnil : source.adjudications = [] := List.getLast?_eq_none_iff.mp hlast
      simp only [hnil, ne_eq, not_true_eq_false, if_false, pure, Except.pure, ok_bind, need,
        raiseWhen_anyOf_test, Option.isNone_none, raiseIf_true, error_bind]
    | some adjudication =>
      have hne : source.adjudications ≠ [] := ne_nil_of_last hlast
      have hbefore := isBefore_utc intent.createdAt_utc adjudication.occurredAt_utc
      simp only [hne, ne_eq, not_false_eq_true, if_true, item_last hlast, map_ok, need, ok_bind,
        raiseWhen_anyOf_test, raiseWhen_anyOf_bind, attributeOf_some, hbefore, raiseWhen_anyOf_nil,
        bind_ok_unit, raiseIf_or, Option.isNone_some, Bool.false_eq_true, raiseIf_false]

theorem validateRetryIntent_eq : validateRetryIntent r intent = r.validateRetryIntent intent := by
  cases hfound : r.attemptById intent.sourceAttemptId with
  | none =>
    simp only [validateRetryIntent, Fields.validateRetryIntent, hfound, need, invalidRunIf,
      Option.isNone_none, true_or, raiseIf_true, error_bind]
  | some source =>
    simp only [validateRetryIntent, Fields.validateRetryIntent, hfound, need, invalidRunIf,
      Option.isNone_some, Bool.false_eq_true, false_or, attributeOf_some, ok_bind,
      validateIntentAuthority_eq]

theorem assignmentEpoch_eq : assignmentEpoch r assignment = r.assignmentEpoch assignment := by
  unfold assignmentEpoch Fields.assignmentEpoch
  cases assignment.retryIntentId with
  | none => rfl
  | some intentId =>
    cases hfound : r.retryIntentById intentId with
    | none =>
      simp only [hfound, raiseWhen_anyOf_test, Option.isNone_none, raiseIf_true, need, error_bind]
    | some intent =>
      obtain ⟨hmem, hid⟩ := Keyed.find_some hfound
      have hepoch : retryIntentEpoch r intent.id =
          some (r.retryIntents.findIdx (fun i => i.id = intentId) + 1) := by
        have hsome : r.retryIntents.findIdx? (fun i => i.id = intentId) =
            some (r.retryIntents.findIdx fun i => i.id = intentId) :=
          List.findIdx?_eq_some_of_exists ⟨intent, hmem, by simpa using hid⟩
        rw [retryIntentEpoch, hid, hsome, Option.map_some]
      have hbefore := isBefore_utc assignment.offeredAt_utc intent.createdAt_utc
      simp only [hfound, raiseWhen_anyOf_test, Option.isNone_some,
        Bool.false_eq_true, raiseIf_false, attributeOf_some, ok_bind, raiseWhen_anyOf_nil,
        bind_ok_unit, need, hbefore, raiseWhen_test, hepoch, entry, invalidRunIf]
      rfl

theorem assignmentEpochs_eq : assignmentEpochs r = r.assignmentEpochs := by
  simp only [assignmentEpochs, Fields.assignmentEpochs, assignmentEpoch_eq]

theorem validateTimeline_eq {previous : Option Datetime} {assignments : List Assignment}
    (hutc : ∀ closed, previous = some closed → closed.IsUtc) :
    validateTimeline previous assignments = Fields.validateTimeline previous assignments := by
  induction assignments generalizing previous with
  | nil => rfl
  | cons assignment assignments ih =>
    have hcheck : ∀ e : DomainError, raiseWhen (allOf [test previous.isSome,
        isBefore (some assignment.offeredAt) previous]) e =
          raiseIf (∃ closed ∈ previous, assignment.offeredAt < closed) e := by
      intro e
      cases previous with
      | none => simp [raiseWhen_allOf_test, whenever, raiseIf]
      | some closed =>
        simp [raiseWhen_allOf_test, raiseWhen_allOf_nil, whenever, raiseIf,
          isBefore_utc assignment.offeredAt_utc (hutc closed rfl)]
    simp only [validateTimeline, Fields.validateTimeline, hcheck, invalidRunIf]
    cases hclosure : assignment.closure with
    | none =>
      have hrest : validateTimeline assignment.committedAt assignments =
          Fields.validateTimeline assignment.committedAt assignments :=
        ih fun _ => assignment.committedAt_utc
      simp [pure, Except.pure, ok_bind, hrest]
    | some closure =>
      have hrest : validateTimeline (some closure.recordedAt) assignments =
          Fields.validateTimeline (some closure.recordedAt) assignments := by
        apply ih
        rintro _ ⟨⟩
        exact closure.recordedAt_utc
      simp [pure, Except.pure, ok_bind, attributeOf_some, hrest]

theorem expectedFence_eq :
    expectedFence r = .ok ((r.attempts.getLast?.map (·.fence)).getD 0) := by
  cases hlast : r.attempts.getLast? with
  | none =>
    have hnil : r.attempts = [] := List.getLast?_eq_none_iff.mp hlast
    rw [expectedFence, if_neg (not_not.mpr hnil)]
    rfl
  | some latest =>
    have hne : r.attempts ≠ [] := ne_nil_of_last hlast
    rw [expectedFence, if_pos hne, item_last hlast]
    rfl

theorem pending_source_eq {e : DomainError} :
    raiseWhen (allOf [test r.pendingRetryIntent.isSome, anyOf [test (r.attempts = []),
      do test ((← attributeOf r.pendingRetryIntent).sourceAttemptId ≠
        (← item r.attempts (-1)).id)]]) e =
      raiseIf (∃ pending ∈ r.pendingRetryIntent,
        r.attempts.getLast?.map (·.id) ≠ some pending.sourceAttemptId) e := by
  cases r.pendingRetryIntent with
  | none => simp [raiseWhen_allOf_test, whenever, raiseIf]
  | some pending =>
    cases hlast : r.attempts.getLast? with
    | none =>
      have hnil : r.attempts = [] := List.getLast?_eq_none_iff.mp hlast
      simp [raiseWhen_allOf_test, raiseWhen_allOf_singleton, raiseWhen_anyOf_test, whenever,
        raiseIf, hnil, error_bind]
    | some latest =>
      have hne : r.attempts ≠ [] := ne_nil_of_last hlast
      simp [raiseWhen_allOf_test, raiseWhen_allOf_singleton, raiseWhen_anyOf_test,
        raiseWhen_anyOf_nil, bind_ok_unit, whenever, hne, item_last hlast, attributeOf_some,
        ok_bind, raiseIf_false]
      exact raiseIf_congr ne_comm

theorem spec_digest_eq {assignments : List Assignment} {e : DomainError} :
    raiseWhen (allOf [test (assignments ≠ []), anyOf (assignments.tail.map fun assignment => do
      test (assignment.specDigest ≠ (← item assignments 0).specDigest))]) e =
      raiseIf (∃ first ∈ assignments.head?, ∃ a ∈ assignments.tail,
        a.specDigest ≠ first.specDigest) e := by
  cases assignments with
  | nil => simp [raiseWhen_allOf_test, whenever, raiseIf]
  | cons first rest =>
    simp [raiseWhen_allOf_test, raiseWhen_allOf_singleton, whenever, item_zero, ok_bind,
      raiseWhen_anyOf_map]

theorem validateNormalizedHistory_eq :
    validateNormalizedHistory r = r.validateNormalizedHistory := by
  have htimeline : validateTimeline none r.assignments =
      Fields.validateTimeline none r.assignments := validateTimeline_eq nofun
  have hintents : validateRetryIntent r = r.validateRetryIntent :=
    funext fun _ => validateRetryIntent_eq
  simp only [validateNormalizedHistory, Fields.validateNormalizedHistory, validatePointer_eq,
    validateAttempts_eq, expectedFence_eq, ok_bind, pending_source_eq, spec_digest_eq,
    assignmentEpochs_eq, htimeline, hintents, invalidRunIf]

/-- A value that is there is compared by one of its instants. -/
theorem guarded_isBefore {β : Type} {a : Datetime} {o : Option β} {f : β → Datetime}
    {e : DomainError} (ha : a.IsUtc) (hf : ∀ b, o = some b → (f b).IsUtc) :
    raiseWhen (allOf [test o.isSome, do isBefore (some a) (some (f (← attributeOf o)))]) e =
      raiseIf (∃ b ∈ o, a < f b) e := by
  cases o with
  | none => simp [raiseWhen_allOf_test, whenever, raiseIf]
  | some b =>
    simp [raiseWhen_allOf_test, raiseWhen_allOf_singleton, whenever, attributeOf_some, ok_bind,
      isBefore_utc ha (hf b rfl), raiseWhen_test]

theorem findSome_of_find {α β : Type} {f : α → Option β} {xs : List α} :
    xs.findSome? f = (xs.find? fun x => (f x).isSome).bind f := by
  induction xs with
  | nil => rfl
  | cons x xs ih =>
    cases hx : f x with
    | none => simp [hx, ih]
    | some y => simp [hx]

theorem validateCancelIntentCausality_eq :
    validateCancelIntentCausality r = r.validateCancelIntentCausality := by
  unfold validateCancelIntentCausality Fields.validateCancelIntentCausality
  cases r.cancelIntent with
  | none => rfl
  | some intent =>
    have hcommitted : ∀ e : DomainError,
        raiseWhen (allOf [test (r.assignments.reverse.find? (·.committedAt.isSome)).isSome,
          do isBefore (some intent.recordedAt)
              (← attributeOf (r.assignments.reverse.find? (·.committedAt.isSome))).committedAt]) e =
          raiseIf (∃ committed ∈ r.latestCommittedAt, intent.recordedAt < committed) e := by
      intro e
      rw [Fields.latestCommittedAt, findSome_of_find]
      cases hfind : r.assignments.reverse.find? (·.committedAt.isSome) with
      | none => simp [raiseWhen_allOf_test, whenever, raiseIf]
      | some assignment =>
        have hsome : assignment.committedAt.isSome = true := by simpa using List.find?_some hfind
        obtain ⟨committed, hcommitted⟩ := Option.isSome_iff_exists.mp hsome
        have hbefore :=
          isBefore_utc intent.recordedAt_utc (assignment.committedAt_utc hcommitted)
        simp [raiseWhen_allOf_test, raiseWhen_allOf_singleton, whenever, attributeOf_some, ok_bind,
          hcommitted, hbefore, raiseWhen_test]
    have hclosure : ∀ closure, r.latestClosure = some closure → closure.recordedAt.IsUtc :=
      fun closure _ => closure.recordedAt_utc
    have hpending : ∀ pending, r.pendingRetryIntent = some pending → pending.createdAt.IsUtc :=
      fun pending _ => pending.createdAt_utc
    simp only [whenSome, hcommitted, guarded_isBefore intent.recordedAt_utc hclosure,
      guarded_isBefore intent.recordedAt_utc hpending, invalidRunIf]

theorem validateCancellationHistory_eq :
    validateCancellationHistory r = r.validateCancellationHistory := by
  unfold validateCancellationHistory Fields.validateCancellationHistory
  cases hcancelled : positions (fun a : Assignment => a.state = .cancelledPrestart)
      r.assignments with
  | nil => rfl
  | cons place places =>
    have hassignments : r.assignments ≠ [] := by
      intro hnil
      rw [hnil] at hcancelled
      cases hcancelled
    obtain ⟨last, hlast⟩ := exists_last hassignments
    have hplace : (place : ℤ) ≠ (r.assignments.length : ℤ) - 1 ↔
        place ≠ r.assignments.length - 1 := by
      have hpos := List.length_pos_iff.mpr hassignments
      omega
    cases hintent : r.cancelIntent with
    | none =>
      simp only [whenever, ne_eq, reduceCtorEq, not_false_eq_true, if_true, item_zero,
        raiseWhen_anyOf_test, ok_bind, List.head?_cons, raiseIf_or, bind_assoc,
        Option.isNone_none, raiseIf_true, error_bind, need, Option.some.injEq,
        raiseIf_congr hplace]
    | some intent =>
      cases hclosure : last.closure with
      | none =>
        simp only [whenever, ne_eq, reduceCtorEq, not_false_eq_true, if_true, item_zero,
          item_last hlast, hlast, hclosure, raiseWhen_anyOf_test, raiseWhen_anyOf_nil,
          bind_ok_unit, ok_bind, List.head?_cons, Option.bind_some, raiseIf_or, bind_assoc,
          Option.isNone_some, Option.isNone_none, Bool.false_eq_true, raiseIf_false, raiseIf_true,
          error_bind, need, invalidRunIf, Option.some.injEq, raiseIf_congr hplace]
      | some closure =>
        simp only [whenever, ne_eq, reduceCtorEq, not_false_eq_true, if_true, item_zero,
          item_last hlast, hlast, hclosure, raiseWhen_anyOf_test, raiseWhen_anyOf_bind,
          raiseWhen_anyOf_nil, bind_ok_unit, ok_bind, List.head?_cons, Option.bind_some,
          raiseIf_or, bind_assoc, Option.isNone_some, Bool.false_eq_true, raiseIf_false,
          attributeOf_some, need, invalidRunIf, Option.some.injEq, raiseIf_congr hplace]

theorem group_tail_eq {group : List ℕ} {committed : ℕ} {e : DomainError} :
    raiseWhen (anyOf [test (group = []), do test (committed ≠ (← item group (-1)))]) e =
      raiseIf (group.getLast? ≠ some committed) e := by
  cases hlast : group.getLast? with
  | none =>
    have hnil : group = [] := List.getLast?_eq_none_iff.mp hlast
    simp [hnil, raiseWhen_anyOf_test, raiseIf, error_bind]
  | some place =>
    have hne : group ≠ [] := ne_nil_of_last hlast
    simp only [raiseWhen_anyOf_test, hne, raiseIf_false, item_last hlast, ok_bind,
      raiseWhen_anyOf_nil, bind_ok_unit, ne_eq, Option.some.injEq]
    exact raiseIf_congr (not_congr eq_comm)

theorem validateEpochTail_eq {index : ℕ} {attempt : Attempt} :
    validateEpochTail r index attempt = r.validateEpochTail index attempt := by
  cases index with
  | zero =>
    simp only [validateEpochTail, Fields.validateEpochTail, if_true, group_tail_eq, nextOf,
      invalidRunIf]
  | succ index =>
    have hindex : ((index + 1 : ℕ) : ℤ) - 1 = index := by omega
    simp only [validateEpochTail, Fields.validateEpochTail, Nat.succ_ne_zero, if_false,
      item_of_nat hindex, group_tail_eq, nextOf, invalidRunIf, pure_bind]

theorem canonicalDigest_caught {schemaVersion : Str} {payload : Json} :
    FailsIn (caught · = true) (canonicalDigest schemaVersion payload) := by
  intro e h
  obtain ⟨path, reason, rfl⟩ := failsIn_canonicalDigest _ _ _ h
  rfl

theorem notReadyIf_caught {c : Prop} [Decidable c] {reason : String} :
    FailsIn (caught · = true) (notReadyIf c reason) := failsIn_raiseIf rfl

theorem artifactInvalidIf_caught {c : Prop} [Decidable c] {field reason : String} :
    FailsIn (caught · = true) (artifactInvalidIf c field reason) := failsIn_raiseIf rfl

theorem need_caught {α : Type} {o : Option α} {reason : String} :
    FailsIn (caught · = true) (need o (.evidenceNotReady reason)) := failsIn_need fun _ => rfl

theorem classifyOutcome_caught {exit : TrustedExitFacts}
    {caseSummary : Option ValidatedCaseSummary} {stop : Option TrustedCancellationStop} :
    FailsIn (caught · = true) (classifyOutcome exit caseSummary stop) := by
  unfold classifyOutcome
  split
  · exact failsIn_ok _
  · exact notReadyIf_caught.bind fun _ _ => failsIn_ok _
  · refine notReadyIf_caught.bind fun _ _ => notReadyIf_caught.bind fun _ _ => ?_
    refine need_caught.bind fun _ _ => need_caught.bind fun _ _ => ?_
    dsimp only
    split
    · exact failsIn_ok _
    · split
      · exact failsIn_ok _
      · exact failsIn_error rfl

/-- Whatever a rebuild of evidence fails with, the handler around it catches. -/
theorem buildEvidenceManifest_caught (input : EvidenceInput) :
    FailsIn (caught · = true) (buildEvidenceManifest input) := by
  have hbinding : ∀ exit, FailsIn (caught · = true) (input.ensureCancellationStopBinding exit) := by
    intro exit
    refine .whenSome fun stop _ => ?_
    exact notReadyIf_caught.bind fun _ _ => notReadyIf_caught.bind fun _ _ => notReadyIf_caught
  have hsource : ∀ artifacts,
      FailsIn (caught · = true) (ensureCaseSummarySource input.caseSummary artifacts) := by
    intro artifacts
    refine .whenSome fun summary _ => need_caught.bind fun matching _ => ?_
    exact notReadyIf_caught.bind fun _ _ => notReadyIf_caught
  have hroot : ∀ base, FailsIn (caught · = true) (input.rootPayload base) := by
    intro base
    unfold EvidenceInput.rootPayload
    split
    · exact failsIn_ok _
    · refine .bind ?_ fun _ _ => failsIn_ok _
      exact canonicalDigest_caught.bind fun _ _ => failsIn_ok _
  unfold buildEvidenceManifest
  refine need_caught.bind fun exit _ => (hbinding exit).bind fun _ _ => ?_
  refine artifactInvalidIf_caught.bind fun _ _ => (hsource _).bind fun _ _ => ?_
  refine classifyOutcome_caught.bind fun outcome _ => (hroot _).bind fun root _ => ?_
  exact canonicalDigest_caught.bind fun _ _ => failsIn_ok _

theorem rebuild_eq {attempt : Attempt} {evidence : EvidenceManifest}
    {stop : Option TrustedCancellationStop} {e : DomainError} :
    exceptCaught (Fields.rebuildEvidence attempt evidence stop) e =
      orFail (Fields.rebuildEvidence attempt evidence stop) e :=
  exceptCaught_eq (buildEvidenceManifest_caught _)

theorem validateEvidenceSnapshot_eq :
    validateEvidenceSnapshot = Fields.validateEvidenceSnapshot := by
  funext attempt
  simp only [validateEvidenceSnapshot, Fields.validateEvidenceSnapshot, rebuild_eq]

theorem validateConvergence_eq {latest : Attempt} {intent : CancellationIntent}
    (hlast : r.attempts.getLast? = some latest) (hintent : r.cancelIntent = some intent) :
    validateConvergence r = (do
      let stop ← need r.cancellationStop
        (invalidRun "cancellation_stop" "required_for_postcommit_cancelled")
      r.validateConvergence latest intent stop) := by
  unfold validateConvergence
  cases hstop : r.cancellationStop with
  | none => simp only [Option.isNone_none, invalidRunIf, raiseIf_true, need, error_bind]
  | some stop =>
    obtain ⟨hprocess, hsut⟩ := stop.stoppedAt_utc
    have hfirst : firstOf stop.processStoppedAt stop.sutAccessStoppedAt = .ok stop.firstStop :=
      firstOf_utc hprocess hsut
    have hutc : stop.firstStop.IsUtc := by
      unfold TrustedCancellationStop.firstStop Datetime.earlier
      split
      · exact hsut
      · exact hprocess
    have hbefore := isBefore_utc hutc intent.recordedAt_utc
    cases hevidence : latest.evidence with
    | none =>
      simp only [Fields.validateConvergence, item_last hlast, hevidence, Option.isNone_none,
        Option.isNone_some, Bool.false_eq_true, invalidRunIf, raiseIf_true, raiseIf_false, need,
        error_bind, ok_bind, raiseWhen_anyOf_test, bind_assoc]
    | some evidence =>
      have hsame : ∀ (rebuilt : EvidenceManifest) (e : DomainError),
          raiseIf (some rebuilt ≠ some evidence) e = raiseIf (rebuilt ≠ evidence) e :=
        fun rebuilt e => raiseIf_congr (not_congr Option.some_inj)
      -- the kernel would otherwise unfold the digests to compare the steps
      simp -implicitDefEqProofs only [Fields.validateConvergence, item_last hlast, hevidence,
        hintent, hsame, Option.isNone_some, Bool.false_eq_true, invalidRunIf, raiseIf_false, need,
        ok_bind, raiseWhen_anyOf_test, raiseWhen_anyOf_bind, raiseWhen_anyOf_nil, bind_ok_unit,
        attributeOf_some, hfirst, hbefore, raiseIf_or, bind_assoc, rebuild_eq]

theorem validateCancelled_eq : validateCancelled r = r.validateCancelled := by
  unfold validateCancelled Fields.validateCancelled
  cases hintent : r.cancelIntent with
  | none =>
    simp only [Option.isNone_none, invalidRunIf, raiseIf_true, need, error_bind]
  | some intent =>
    cases hlast : r.attempts.getLast? with
    | none =>
      have hnil : r.attempts = [] := List.getLast?_eq_none_iff.mp hlast
      simp [hnil, invalidRunIf, raiseIf_false, need, ok_bind]
    | some latest =>
      have hne : r.attempts ≠ [] := ne_nil_of_last hlast
      cases hpending : r.pendingRetryIntent with
      | none =>
        simp [hne, invalidRunIf, raiseIf_false, need, ok_bind, validateConvergence_eq hlast hintent]
      | some pending => simp [invalidRunIf, raiseIf_false, need, ok_bind]

theorem validateAssigned_eq : validateAssigned r = r.validateAssigned := by
  unfold validateAssigned Fields.validateAssigned
  cases r.assignment with
  | none => simp only [raiseWhen_anyOf_test, Option.isNone_none, raiseIf_true, need, error_bind]
  | some current =>
    cases r.pendingRetryIntent with
    | none =>
      simp only [raiseWhen_anyOf_test, Option.isNone_none, Option.isNone_some, Bool.false_eq_true,
        raiseIf_true, raiseIf_false, need, error_bind, ok_bind, attributeOf_some,
        raiseWhen_anyOf_nil, bind_ok_unit, invalidRunIf]
    | some pending =>
      simp only [raiseWhen_anyOf_test, raiseWhen_test, Option.isNone_some, Bool.false_eq_true,
        raiseIf_false, need, ok_bind, attributeOf_some, raiseWhen_anyOf_nil, bind_ok_unit,
        invalidRunIf]

theorem validateState_eq : validateState r = r.validateState := by
  unfold validateState
  cases hstate : r.state with
  | planned => rfl
  | queued => rfl
  | retryQueued => rfl
  | assigned => simp only [Fields.validateState, hstate, validateAssigned_eq]
  | cancelled => simp only [Fields.validateState, hstate, validateCancelled_eq]
  | running =>
    simp only [Fields.validateState, hstate, validateRunning]
    cases r.assignment with
    | none => simp [raiseWhen_anyOf_test, raiseIf_true, error_bind, invalidRunIf]
    | some current =>
      simp [raiseWhen_anyOf_test, raiseWhen_anyOf_nil, raiseIf_false, attributeOf_some, ok_bind,
        bind_ok_unit, invalidRunIf]

theorem validateStatePointers_eq : validateStatePointers r = r.validateStatePointers := by
  have houtcome : (whenever (r.attempts ≠ []) do
      let latest ← item r.attempts (-1)
      let hasCancelledOutcome ← anyOf [test (latest.state = .cancelled),
        allOf [test latest.evidence.isSome,
          do test ((← attributeOf latest.evidence).outcome = .cancelled)]]
      invalidRunIf (hasCancelledOutcome = true ∧ ¬ (r.state = .cancelled ∧
        r.pendingRetryIntent.isNone ∧ r.cancellationStop.isSome)) "attempts"
        "cancelled_attempt_requires_converged_run") =
      invalidRunIf (∃ latest ∈ r.attempts.getLast?, Fields.hasCancelledOutcome latest ∧
        ¬ (r.state = .cancelled ∧ r.pendingRetryIntent.isNone ∧ r.cancellationStop.isSome))
        "attempts" "cancelled_attempt_requires_converged_run" := by
    cases hlast : r.attempts.getLast? with
    | none =>
      have hnil : r.attempts = [] := List.getLast?_eq_none_iff.mp hlast
      simp [hnil, whenever, invalidRunIf, raiseIf]
    | some latest =>
      have hne : r.attempts ≠ [] := ne_nil_of_last hlast
      have hcancelled : anyOf [test (latest.state = .cancelled),
          allOf [test latest.evidence.isSome,
            do test ((← attributeOf latest.evidence).outcome = .cancelled)]] =
          test (Fields.hasCancelledOutcome latest) := by
        by_cases hstate : latest.state = .cancelled
        · simp [anyOf, test, ok_bind, Fields.hasCancelledOutcome, hstate, pure, Except.pure]
        · cases hevidence : latest.evidence with
          | none =>
            simp [anyOf, allOf, test, ok_bind, Fields.hasCancelledOutcome, hstate, hevidence, pure,
              Except.pure]
          | some evidence =>
            by_cases hevidenceOutcome : evidence.outcome = .cancelled
            · simp [anyOf, allOf, test, ok_bind, attributeOf_some, Fields.hasCancelledOutcome,
                hevidence, hevidenceOutcome, hstate, pure, Except.pure]
            · simp [anyOf, allOf, test, ok_bind, attributeOf_some, Fields.hasCancelledOutcome,
                hevidence, hevidenceOutcome, hstate, pure, Except.pure]
      simp only [whenever, ne_eq, hne, not_false_eq_true, if_true, item_last hlast, ok_bind,
        hcancelled]
      simp [test, ok_bind, invalidRunIf]
  simp only [validateStatePointers, Fields.validateStatePointers, validateState_eq,
    validateEvidenceSnapshot_eq, houtcome]

/-- No check of a Run relies on more than the checks before it have made sure of. -/
theorem postInit_eq : postInit r = r.postInit := by
  simp only [postInit, Fields.postInit, validateNormalizedHistory_eq,
    validateCancelIntentCausality_eq, validateCancellationHistory_eq, validateStatePointers_eq,
    validateAssignmentEpochTails, Fields.validateAssignmentEpochTails, validateEpochTail_eq]

end

/-- The errors a Run is refused with. -/
def Refusal (e : DomainError) : Prop :=
  (∃ entityType field reason, e = .domainValidation entityType field reason) ∨
    ∃ path reason, e = .canonicalization path reason

section
variable {r : Run.Fields} {c : Prop} [Decidable c] {field reason : String}

theorem refusal_invalidRun : Refusal (invalidRun field reason) := Or.inl ⟨_, _, _, rfl⟩

theorem invalidRunIf_refuses : FailsIn Refusal (invalidRunIf c field reason) :=
  failsIn_raiseIf refusal_invalidRun

theorem raiseIf_refuses : FailsIn Refusal (raiseIf c (invalidRun field reason)) :=
  failsIn_raiseIf refusal_invalidRun

theorem need_refuses {α : Type} {o : Option α} :
    FailsIn Refusal (need o (invalidRun field reason)) := failsIn_need fun _ => refusal_invalidRun

theorem canonicalDigest_refuses {schemaVersion : Str} {payload : Json} :
    FailsIn Refusal (canonicalDigest schemaVersion payload) := by
  intro e h
  obtain ⟨path, reason, rfl⟩ := failsIn_canonicalDigest _ _ _ h
  exact Or.inr ⟨_, _, rfl⟩

theorem cancellationDigest_refuses (intent : CancellationIntent) :
    FailsIn Refusal intent.digest :=
  canonicalDigest_refuses.bind fun _ _ => canonicalDigest_refuses

theorem validatePointer_refuses {pointer : Option Str} {ids : List Str} :
    FailsIn Refusal (Fields.validatePointer field pointer ids) :=
  .whenSome fun _ _ => invalidRunIf_refuses.bind fun _ _ => invalidRunIf_refuses

theorem validateAttempt_refuses {index : ℕ} {previous : Option Attempt} {attempt : Attempt} :
    FailsIn Refusal (r.validateAttempt index previous attempt) := by
  refine invalidRunIf_refuses.bind fun _ _ => invalidRunIf_refuses.bind fun _ _ => ?_
  refine invalidRunIf_refuses.bind fun _ _ => need_refuses.bind fun assignment _ => ?_
  refine invalidRunIf_refuses.bind fun _ _ => invalidRunIf_refuses.bind fun _ _ => ?_
  split
  · exact invalidRunIf_refuses
  · refine need_refuses.bind fun provenance _ => need_refuses.bind fun intent _ => ?_
    refine need_refuses.bind fun source _ => raiseIf_refuses.bind fun _ _ => ?_
    exact canonicalDigest_refuses.bind fun _ _ => raiseIf_refuses

theorem validateAttempts_refuses {index : ℕ} {previous : Option Attempt}
    {attempts : List Attempt} : FailsIn Refusal (r.validateAttempts index previous attempts) := by
  induction attempts generalizing index previous with
  | nil => exact failsIn_ok _
  | cons attempt attempts ih => exact validateAttempt_refuses.bind fun _ _ => ih

theorem validateRetryIntent_refuses {intent : RetryIntent} :
    FailsIn Refusal (r.validateRetryIntent intent) := by
  refine need_refuses.bind fun source _ => invalidRunIf_refuses.bind fun _ _ => ?_
  refine invalidRunIf_refuses.bind fun _ _ => ?_
  unfold Fields.validateIntentAuthority
  split
  · refine need_refuses.bind fun adjudication _ => raiseIf_refuses.bind fun _ _ => ?_
    exact canonicalDigest_refuses.bind fun _ _ => raiseIf_refuses
  · exact invalidRunIf_refuses

theorem assignmentEpoch_refuses {assignment : Assignment} :
    FailsIn Refusal (r.assignmentEpoch assignment) := by
  unfold Fields.assignmentEpoch
  split
  · exact failsIn_ok _
  · refine need_refuses.bind fun intent _ => invalidRunIf_refuses.bind fun _ _ => ?_
    exact invalidRunIf_refuses.bind fun _ _ => failsIn_ok _

theorem validateAssignmentState_refuses {assignment : Assignment} :
    FailsIn Refusal (r.validateAssignmentState assignment) := by
  unfold Fields.validateAssignmentState
  dsimp only
  split <;> exact invalidRunIf_refuses

theorem validateTimeline_refuses {previous : Option Datetime} {assignments : List Assignment} :
    FailsIn Refusal (Fields.validateTimeline previous assignments) := by
  induction assignments generalizing previous with
  | nil => exact failsIn_ok _
  | cons assignment assignments ih => exact invalidRunIf_refuses.bind fun _ _ => ih

theorem validateNormalizedHistory_refuses : FailsIn Refusal r.validateNormalizedHistory := by
  have hepochs : FailsIn Refusal r.assignmentEpochs := .collect fun assignment _ =>
    assignmentEpoch_refuses.bind fun _ _ =>
      validateAssignmentState_refuses.bind fun _ _ => failsIn_ok _
  refine invalidRunIf_refuses.bind fun _ _ => validatePointer_refuses.bind fun _ _ => ?_
  refine invalidRunIf_refuses.bind fun _ _ => validatePointer_refuses.bind fun _ _ => ?_
  refine invalidRunIf_refuses.bind fun _ _ => invalidRunIf_refuses.bind fun _ _ => ?_
  refine validateAttempts_refuses.bind fun _ _ => invalidRunIf_refuses.bind fun _ _ => ?_
  refine invalidRunIf_refuses.bind fun _ _ => invalidRunIf_refuses.bind fun _ _ => ?_
  refine (FailsIn.each fun _ _ => validateRetryIntent_refuses).bind fun _ _ => ?_
  refine hepochs.bind fun epochs _ => invalidRunIf_refuses.bind fun _ _ => ?_
  refine invalidRunIf_refuses.bind fun _ _ => invalidRunIf_refuses.bind fun _ _ => ?_
  exact validateTimeline_refuses

theorem validateCancelIntentCausality_refuses :
    FailsIn Refusal r.validateCancelIntentCausality :=
  .whenSome fun _ _ => invalidRunIf_refuses.bind fun _ _ =>
    invalidRunIf_refuses.bind fun _ _ => invalidRunIf_refuses

theorem validateCancellationHistory_refuses : FailsIn Refusal r.validateCancellationHistory := by
  refine .whenever fun _ => raiseIf_refuses.bind fun _ _ => need_refuses.bind fun intent _ => ?_
  refine need_refuses.bind fun closure _ => (cancellationDigest_refuses intent).bind fun _ _ => ?_
  exact invalidRunIf_refuses

theorem orFail_refuses {α : Type} {x : Result α} :
    FailsIn Refusal (orFail x (invalidRun field reason)) := failsIn_orFail refusal_invalidRun

theorem validateConvergence_refuses {latest : Attempt} {intent : CancellationIntent}
    {stop : TrustedCancellationStop} :
    FailsIn Refusal (r.validateConvergence latest intent stop) := by
  refine raiseIf_refuses.bind fun _ _ => need_refuses.bind fun evidence _ => ?_
  refine raiseIf_refuses.bind fun _ _ => raiseIf_refuses.bind fun _ _ => ?_
  refine (cancellationDigest_refuses intent).bind fun _ _ => raiseIf_refuses.bind fun _ _ => ?_
  exact orFail_refuses.bind fun _ _ => invalidRunIf_refuses

theorem validateState_refuses : FailsIn Refusal r.validateState := by
  unfold Fields.validateState
  split
  · exact invalidRunIf_refuses
  · exact invalidRunIf_refuses.bind fun _ _ => invalidRunIf_refuses.bind fun _ _ =>
      invalidRunIf_refuses
  · exact invalidRunIf_refuses.bind fun _ _ => invalidRunIf_refuses
  · refine need_refuses.bind fun current _ => raiseIf_refuses.bind fun _ _ => ?_
    exact .whenever fun _ => need_refuses.bind fun _ _ => invalidRunIf_refuses
  · refine invalidRunIf_refuses.bind fun _ _ => need_refuses.bind fun intent _ => ?_
    split
    · exact need_refuses.bind fun stop _ => validateConvergence_refuses
    · exact invalidRunIf_refuses
  · exact invalidRunIf_refuses.bind fun _ _ => invalidRunIf_refuses

theorem validateStatePointers_refuses : FailsIn Refusal r.validateStatePointers := by
  have hsnapshot : ∀ attempt, FailsIn Refusal (Fields.validateEvidenceSnapshot attempt) :=
    fun attempt => .whenSome fun evidence _ => orFail_refuses.bind fun _ _ =>
      invalidRunIf_refuses.bind fun _ _ => invalidRunIf_refuses
  refine validateState_refuses.bind fun _ _ => ?_
  refine (FailsIn.each fun attempt _ => hsnapshot attempt).bind fun _ _ => ?_
  exact invalidRunIf_refuses.bind fun _ _ => invalidRunIf_refuses.bind fun _ _ =>
    invalidRunIf_refuses

/-- The intent a retry attempt consumed names the number of the attempt before it. -/
theorem exists_source_intent (h : r.History) {i : ℕ} (hi : i + 1 < r.attempts.length) :
    ∃ intent ∈ r.retryIntents, intent.sourceAttemptNo = i + 1 := by
  have hvalid := h.attempt_valid (List.getElem?_eq_getElem hi)
  simp only [Fields.validateAttempt, bind_eq_ok, exists_unit, need_eq_ok, Nat.add_eq_right,
    Nat.succ_ne_zero, if_false, Fields.validateRetryChain, raiseIf_eq_ok, not_or, ne_eq,
    not_not] at hvalid
  obtain ⟨-, -, -, s, -, -, -, provenance, -, intent, hintent, source, hsource,
    ⟨hprevious, -, -, hno, -⟩, -⟩ := hvalid
  simp only [precedingAttempt, Option.map_eq_some_iff] at hprevious
  obtain ⟨previous, hget, hid⟩ := hprevious
  have heq : previous = source :=
    Keyed.eq_of_key h.attempt_ids (List.mem_of_getElem? hget) (Keyed.find_some hsource).1 hid
  refine ⟨intent, (Keyed.find_some hintent).1, ?_⟩
  rw [hno, ← heq]
  exact (h.attempt_facts hget).2.1

/-- The attempts after the first have distinct sources, so there is an intent for each of them. -/
theorem attempts_le_intents (h : r.History) :
    r.attempts.length ≤ r.retryIntents.length + 1 := by
  have hnodup : ((List.range (r.attempts.length - 1)).map fun i : ℕ => (i : ℤ) + 1).Nodup := by
    refine List.nodup_range.map fun i j hij => ?_
    have hij : (i : ℤ) + 1 = j + 1 := hij
    omega
  have hsubset : (List.range (r.attempts.length - 1)).map (fun i : ℕ => (i : ℤ) + 1) ⊆
      r.retryIntents.map (·.sourceAttemptNo) := by
    intro no hno
    obtain ⟨i, hi, rfl⟩ := List.mem_map.mp hno
    rw [List.mem_range] at hi
    obtain ⟨intent, hintent, hsource⟩ := exists_source_intent h (by omega : i + 1 < _)
    exact List.mem_map.mpr ⟨intent, hintent, hsource⟩
  have hle := (List.subperm_of_subset hnodup hsubset).length_le
  rw [List.length_map, List.length_map, List.length_range] at hle
  omega

/-- Behind the history check both lookups of the epoch check find what they look for. -/
theorem validateEpochTail_refuses (h : r.History) {attempt : Attempt} {index : ℕ}
    (hattempt : r.attempts[index]? = some attempt) :
    FailsIn Refusal (r.validateEpochTail index attempt) := by
  have hcheck : ∀ retryIntentId : Option Str, FailsIn Refusal (do
      let committed ← need (r.assignments.findIdx? fun a => a.id = attempt.assignmentId)
        (.crash .stopIteration)
      invalidRunIf ((positions (fun a : Assignment => a.retryIntentId = retryIntentId)
        r.assignments).getLast? ≠ some committed) "assignments"
        "committed_assignment_not_epoch_tail") := by
    intro retryIntentId
    refine .bind (failsIn_need fun hnone => ?_) fun _ _ => invalidRunIf_refuses
    obtain ⟨-, -, -, s, hs, -⟩ := h.attempt_facts hattempt
    obtain ⟨hmem, hid⟩ := Keyed.find_some hs
    rw [List.findIdx?_eq_none_iff] at hnone
    exact absurd hid (by simpa using hnone s hmem)
  cases index with
  | zero => exact hcheck none
  | succ index =>
    have hle := attempts_le_intents h
    obtain ⟨hlen, -⟩ := List.getElem?_eq_some_iff.mp hattempt
    have hin : index < r.retryIntents.length := by omega
    simp only [Fields.validateEpochTail, List.getElem?_eq_getElem hin, need, ok_bind, pure_bind]
    exact hcheck _

theorem postInit_refuses : FailsIn Refusal r.postInit := by
  have hpointers : FailsIn Refusal (each [("current_assignment_id", r.currentAssignmentId),
      ("pending_retry_intent_id", r.pendingRetryIntentId)] fun f =>
      invalidRunIf (∃ value ∈ f.2, isBlank value) f.1 "invalid") :=
    .each fun _ _ => invalidRunIf_refuses
  refine invalidRunIf_refuses.bind fun _ _ => invalidRunIf_refuses.bind fun _ _ => ?_
  refine invalidRunIf_refuses.bind fun _ _ => hpointers.bind fun _ _ => ?_
  refine invalidRunIf_refuses.bind fun _ _ => ?_
  refine validateNormalizedHistory_refuses.bind fun _ hhistory => ?_
  refine validateCancelIntentCausality_refuses.bind fun _ _ => ?_
  refine validateCancellationHistory_refuses.bind fun _ _ => ?_
  refine validateStatePointers_refuses.bind fun _ _ => ?_
  refine .bind (.each fun a ha => ?_) fun _ _ => invalidRunIf_refuses
  have hget := List.mem_zipIdx_iff_getElem?.mp ha
  exact validateEpochTail_refuses (Fields.history_of_ok hhistory) hget

end

/-- Whatever its fields are, a Run is constructed or refused, and no access of its checks fails. -/
theorem rehydration_never_crashes (f : Run.Fields) :
    (∃ r : Run, r.toFields = f ∧ postInit f = .ok ()) ∨
      ∃ e, postInit f = .error e ∧ Refusal e := by
  rw [postInit_eq]
  cases h : f.postInit with
  | ok _ => exact Or.inl ⟨⟨f, h⟩, rfl, rfl⟩
  | error e => exact Or.inr ⟨e, rfl, postInit_refuses e h⟩

end Run.Rehydration

end QaRunner
