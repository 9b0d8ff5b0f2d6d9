import QaRunner.Domain.RetrySelection

/-! Which attempt a Run is finalized on: the latest complete one of the authorized chain, whole. -/
namespace QaRunner
open Guarded

namespace VerifiedAttemptResolutionSet

def itemKeys (a : VerifiedAttemptResolutionSet) : List RunItemKey := a.items.map (·.itemKey)

/-- Nothing but expected items is observed. -/
def Own (expected : List RunItemKey) (a : VerifiedAttemptResolutionSet) : Prop :=
  ∀ k ∈ a.itemKeys, k ∈ expected

/-- Exactly the expected items are observed. -/
def Complete (expected : List RunItemKey) (a : VerifiedAttemptResolutionSet) : Prop :=
  a.Own expected ∧ ∀ k ∈ expected, k ∈ a.itemKeys

instance (expected : List RunItemKey) (a : VerifiedAttemptResolutionSet) :
    Decidable (a.Own expected) := inferInstanceAs (Decidable (∀ _ ∈ _, _))

instance (expected : List RunItemKey) (a : VerifiedAttemptResolutionSet) :
    Decidable (a.Complete expected) := inferInstanceAs (Decidable (_ ∧ _))

end VerifiedAttemptResolutionSet

/-- Follow the chain from one number and fence on, collecting the complete attempts. -/
def followAttempts (expectedItemKeys : List RunItemKey) (runItemSetDigest : Digest)
    (expectedNo previousFence : ℤ) (complete : List VerifiedAttemptResolutionSet) :
    List VerifiedAttemptResolutionSet → Result (List VerifiedAttemptResolutionSet)
  | [] => .ok complete
  | attempt :: rest => do
    invalidIf (attempt.attemptNo ≠ expectedNo ∨ attempt.attemptFence ≤ previousFence)
      "authorized_retry_selection" "attempts" "continuous_chain_required"
    invalidIf (attempt.attemptItemSetDigest ≠ runItemSetDigest) "authorized_retry_selection"
      "attempt_item_set_digest" "full_run_item_set_required"
    invalidIf (¬ attempt.Own expectedItemKeys) "authorized_retry_selection" "items"
      "cross_run_item"
    followAttempts expectedItemKeys runItemSetDigest (expectedNo + 1) attempt.attemptFence
      (if attempt.Complete expectedItemKeys then complete ++ [attempt] else complete) rest

/-- Validate a continuous full-Run authority chain and select its latest complete fact set. -/
def selectLatestAuthorizedCompleteAttempt (expectedItemKeys : List RunItemKey)
    (runItemSetDigest : Digest) (originalAttemptNo originalAttemptFence : ℤ)
    (attempts : List VerifiedAttemptResolutionSet) (runId : Str) :
    Result VerifiedAttemptResolutionSet := do
  invalidIf (expectedItemKeys = [] ∨ ¬ expectedItemKeys.Nodup) "authorized_retry_selection"
    "expected_item_keys" "invalid"
  requireString "authorized_retry_selection" "run_id" runId
  requirePositiveInt "authorized_retry_selection" "original_attempt_no" originalAttemptNo
  requirePositiveInt "authorized_retry_selection" "original_attempt_fence" originalAttemptFence
  let latest ← need attempts.getLast?
    (.domainValidation "authorized_retry_selection" "attempts" "invalid")
  let complete ← followAttempts expectedItemKeys runItemSetDigest (originalAttemptNo + 1)
    originalAttemptFence [] attempts
  need complete.getLast? (.attemptUnknownReviewRequired runId latest.attemptId
    latest.attemptFence "no_authorized_complete_attempt")

/-- Numbered from one number on, with rising fences, all about the items of the Run. -/
structure AuthorizedChain (expected : List RunItemKey) (itemSetDigest : Digest) (no fence : ℤ)
    (attempts : List VerifiedAttemptResolutionSet) : Prop where
  numbered : ∀ (i : ℕ) a, attempts[i]? = some a → a.attemptNo = no + i
  rising : (fence :: attempts.map (·.attemptFence)).Pairwise (· < ·)
  bound : ∀ a ∈ attempts, a.attemptItemSetDigest = itemSetDigest
  own : ∀ a ∈ attempts, a.Own expected

section
variable {expected : List RunItemKey} {itemSetDigest : Digest} {no fence : ℤ} {runId : Str}
  {a b chosen latest : VerifiedAttemptResolutionSet}
  {attempts attempts' complete result : List VerifiedAttemptResolutionSet}

theorem AuthorizedChain.nil : AuthorizedChain expected itemSetDigest no fence [] where
  numbered i a h := by cases h
  rising := List.pairwise_singleton _ _
  bound a h := by cases h
  own a h := by cases h

theorem AuthorizedChain.cons_iff :
    AuthorizedChain expected itemSetDigest no fence (a :: attempts) ↔
      a.attemptNo = no ∧ fence < a.attemptFence ∧ a.attemptItemSetDigest = itemSetDigest ∧
        a.Own expected ∧
        AuthorizedChain expected itemSetDigest (no + 1) a.attemptFence attempts := by
  constructor
  · intro h
    have hrising := h.rising
    rw [List.map_cons, List.pairwise_cons] at hrising
    have hbound := List.forall_mem_cons.mp h.bound
    have hown := List.forall_mem_cons.mp h.own
    have hno : a.attemptNo = no := by
      have hfirst := h.numbered 0 a rfl
      omega
    refine ⟨hno, hrising.1 _ List.mem_cons_self, hbound.1, hown.1, ?_, hrising.2, hbound.2, hown.2⟩
    intro i b hb
    have hnext := h.numbered (i + 1) b hb
    push_cast at hnext
    omega
  · rintro ⟨hno, hfence, hdigest, hown, hrest⟩
    refine ⟨?_, ?_, List.forall_mem_cons.mpr ⟨hdigest, hrest.bound⟩,
      List.forall_mem_cons.mpr ⟨hown, hrest.own⟩⟩
    · intro i b hb
      cases i with
      | zero =>
        cases hb
        simpa using hno
      | succ i =>
        have hnext := hrest.numbered i b hb
        push_cast
        omega
    · have hrising := hrest.rising
      rw [List.map_cons, List.pairwise_cons]
      refine ⟨?_, hrising⟩
      rw [List.pairwise_cons] at hrising
      rw [List.forall_mem_cons]
      refine ⟨hfence, fun f hf => ?_⟩
      have hlater := hrising.1 f hf
      omega

/-- Following succeeds along a chain, and collects the complete attempts in order. -/
theorem followAttempts_eq_ok :
    followAttempts expected itemSetDigest no fence complete attempts = .ok result ↔
      AuthorizedChain expected itemSetDigest no fence attempts ∧
        result = complete ++ attempts.filter (·.Complete expected) := by
  induction attempts generalizing no fence complete with
  | nil =>
    rw [followAttempts, List.filter_nil, List.append_nil, Except.ok.injEq]
    constructor
    · rintro rfl
      exact ⟨.nil, rfl⟩
    · rintro ⟨-, rfl⟩
      rfl
  | cons a rest ih =>
    rw [followAttempts, AuthorizedChain.cons_iff]
    simp only [then_eq_ok, invalidIf_eq_ok, ih, not_or, not_not, not_le, ne_eq]
    have hcollected : ∀ later,
        (if a.Complete expected then complete ++ [a] else complete) ++ later =
          complete ++ (if a.Complete expected then a :: later else later) := by
      intro later
      split
      · rw [List.append_assoc, List.singleton_append]
      · rfl
    rw [hcollected, List.filter_cons]
    simp only [decide_eq_true_eq]
    constructor
    · rintro ⟨⟨hno, hfence⟩, hdigest, hown, hrest, hresult⟩
      exact ⟨⟨hno, hfence, hdigest, hown, hrest⟩, hresult⟩
    · rintro ⟨⟨hno, hfence, hdigest, hown, hrest⟩, hresult⟩
      exact ⟨⟨hno, hfence⟩, hdigest, hown, hrest, hresult⟩

/-- What the selection checks before it follows the chain. -/
structure SelectionInputs (expected : List RunItemKey) (no fence : ℤ) (runId : Str) : Prop where
  some_item : expected ≠ []
  distinct : expected.Nodup
  named : isBlank runId = false
  numbered : 0 < no
  fenced : 0 < fence

theorem select_eq (hinputs : SelectionInputs expected no fence runId)
    (hlatest : attempts.getLast? = some latest)
    (hchain : AuthorizedChain expected itemSetDigest (no + 1) fence attempts) :
    selectLatestAuthorizedCompleteAttempt expected itemSetDigest no fence attempts runId =
      need (attempts.filter (·.Complete expected)).getLast? (.attemptUnknownReviewRequired runId
        latest.attemptId latest.attemptFence "no_authorized_complete_attempt") := by
  have hkeys : ¬ (expected = [] ∨ ¬ expected.Nodup) := by
    rw [not_or, not_not]
    exact ⟨hinputs.some_item, hinputs.distinct⟩
  have hno : requirePositiveInt "authorized_retry_selection" "original_attempt_no" no = .ok () :=
    requirePositiveInt_eq_ok.mpr hinputs.numbered
  have hfence : requirePositiveInt "authorized_retry_selection" "original_attempt_fence" fence =
      .ok () := requirePositiveInt_eq_ok.mpr hinputs.fenced
  have hrun : requireString "authorized_retry_selection" "run_id" runId = .ok () :=
    requireString_eq_ok.mpr hinputs.named
  have hfollow : followAttempts expected itemSetDigest (no + 1) fence [] attempts =
      .ok (attempts.filter (·.Complete expected)) :=
    followAttempts_eq_ok.mpr ⟨hchain, (List.nil_append _).symm⟩
  rw [selectLatestAuthorizedCompleteAttempt, invalidIf, raiseIf_of_not hkeys, hrun, hno, hfence,
    hlatest, hfollow]
  rfl

theorem select_eq_ok :
    selectLatestAuthorizedCompleteAttempt expected itemSetDigest no fence attempts runId =
      .ok chosen ↔ SelectionInputs expected no fence runId ∧
        AuthorizedChain expected itemSetDigest (no + 1) fence attempts ∧
        (attempts.filter (·.Complete expected)).getLast? = some chosen := by
  constructor
  · intro h
    simp only [selectLatestAuthorizedCompleteAttempt, then_eq_ok, invalidIf_eq_ok, not_or, not_not,
      requireString_eq_ok, requirePositiveInt_eq_ok] at h
    obtain ⟨⟨hne, hnodup⟩, hrun, hno, hfence, h⟩ := h
    obtain ⟨latest, hlatest, h⟩ := bind_eq_ok.mp h
    obtain ⟨complete, hcomplete, hchosen⟩ := bind_eq_ok.mp h
    obtain ⟨hchain, rfl⟩ := followAttempts_eq_ok.mp hcomplete
    exact ⟨⟨hne, hnodup, hrun, hno, hfence⟩, hchain, need_eq_ok.mp hchosen⟩
  · rintro ⟨hinputs, hchain, hchosen⟩
    cases hlatest : attempts.getLast? with
    | none =>
      rw [List.getLast?_eq_none_iff] at hlatest
      subst hlatest
      cases hchosen
    | some latest => rw [select_eq hinputs hlatest hchain, hchosen]; rfl

/-- The last element that passes stands before nothing else that does. -/
theorem getLast_filter_eq_some {α : Type} {p : α → Bool} {xs : List α} {x : α}
    (h : (xs.filter p).getLast? = some x) :
    p x = true ∧ ∃ earlier later, xs = earlier ++ x :: later ∧ ∀ y ∈ later, p y = false := by
  rw [List.getLast?_filter, List.find?_eq_some_iff_append] at h
  obtain ⟨hp, later, earlier, hsplit, hlater⟩ := h
  have hxs : xs = earlier.reverse ++ x :: later.reverse := by
    rw [← List.reverse_reverse xs, hsplit]
    simp
  refine ⟨hp, earlier.reverse, later.reverse, hxs, fun y hy => ?_⟩
  have hfails := hlater y (List.mem_reverse.mp hy)
  simpa using hfails

/-- Another attempt may stand in for one that was not chosen. -/
structure StandsFor (expected : List RunItemKey) (chosen a b : VerifiedAttemptResolutionSet) :
    Prop where
  no : b.attemptNo = a.attemptNo
  fence : b.attemptFence = a.attemptFence
  digest : b.attemptItemSetDigest = a.attemptItemSetDigest
  own : b.Own expected
  complete : b.Complete expected ↔ a.Complete expected
  chosen : a = chosen → b = chosen

theorem AuthorizedChain.of_standsFor (h : AuthorizedChain expected itemSetDigest no fence attempts)
    (hstand : List.Forall₂ (StandsFor expected chosen) attempts attempts') :
    AuthorizedChain expected itemSetDigest no fence attempts' := by
  induction hstand generalizing no fence with
  | nil => exact .nil
  | cons hab _ ih =>
    rw [AuthorizedChain.cons_iff] at h ⊢
    obtain ⟨hno, hfence, hdigest, -, hrest⟩ := h
    refine ⟨hab.no.trans hno, ?_, hab.digest.trans hdigest, hab.own, ?_⟩
    · rw [hab.fence]
      exact hfence
    · rw [hab.fence]
      exact ih hrest

/-- The first complete attempt stays where it is when the others are replaced. -/
theorem find_of_standsFor (hstand : List.Forall₂ (StandsFor expected chosen) attempts attempts')
    (h : attempts.find? (·.Complete expected) = some chosen) :
    attempts'.find? (·.Complete expected) = some chosen := by
  induction hstand with
  | nil => cases h
  | @cons a b _ _ hab _ ih =>
    rw [List.find?_cons] at h ⊢
    by_cases hcomplete : a.Complete expected
    · rw [decide_eq_true hcomplete] at h
      rw [decide_eq_true (hab.complete.mpr hcomplete), hab.chosen (Option.some.inj h)]
    · have hcomplete' : ¬ b.Complete expected := fun hb => hcomplete (hab.complete.mp hb)
      rw [decide_eq_false hcomplete] at h
      rw [decide_eq_false hcomplete']
      exact ih h

/-- The selection returns exactly on an authorized chain with a complete attempt, and then returns
the last of these, whatever the other attempts observed; on a chain without one the Run is sent to
review. -/
theorem select_whole_attempt (expected : List RunItemKey) (itemSetDigest : Digest) (no fence : ℤ)
    (attempts : List VerifiedAttemptResolutionSet) (runId : Str) :
    ((∃ chosen, selectLatestAuthorizedCompleteAttempt expected itemSetDigest no fence attempts
        runId = .ok chosen) ↔
      SelectionInputs expected no fence runId ∧
        AuthorizedChain expected itemSetDigest (no + 1) fence attempts ∧
        ∃ a ∈ attempts, a.Complete expected) ∧
    (∀ chosen, selectLatestAuthorizedCompleteAttempt expected itemSetDigest no fence attempts
        runId = .ok chosen →
      chosen.Complete expected ∧
      (∃ earlier later, attempts = earlier ++ chosen :: later ∧
        ∀ b ∈ later, ¬ b.Complete expected) ∧
      ∀ attempts', List.Forall₂ (StandsFor expected chosen) attempts attempts' →
        selectLatestAuthorizedCompleteAttempt expected itemSetDigest no fence attempts' runId =
          .ok chosen) ∧
    (SelectionInputs expected no fence runId →
      AuthorizedChain expected itemSetDigest (no + 1) fence attempts →
      (∀ a ∈ attempts, ¬ a.Complete expected) → ∀ latest, attempts.getLast? = some latest →
      selectLatestAuthorizedCompleteAttempt expected itemSetDigest no fence attempts runId =
        .error (.attemptUnknownReviewRequired runId latest.attemptId latest.attemptFence
          "no_authorized_complete_attempt")) := by
  refine ⟨⟨?_, ?_⟩, ?_, ?_⟩
  · rintro ⟨chosen, h⟩
    obtain ⟨hinputs, hchain, hchosen⟩ := select_eq_ok.mp h
    have hmem := List.mem_filter.mp (List.mem_of_getLast? hchosen)
    exact ⟨hinputs, hchain, chosen, hmem.1, of_decide_eq_true hmem.2⟩
  · rintro ⟨hinputs, hchain, a, ha, hcomplete⟩
    have hmem : a ∈ attempts.filter (·.Complete expected) :=
      List.mem_filter.mpr ⟨ha, decide_eq_true hcomplete⟩
    cases hchosen : (attempts.filter (·.Complete expected)).getLast? with
    | none =>
      rw [List.getLast?_eq_none_iff.mp hchosen] at hmem
      cases hmem
    | some chosen => exact ⟨chosen, select_eq_ok.mpr ⟨hinputs, hchain, hchosen⟩⟩
  · intro chosen h
    obtain ⟨hinputs, hchain, hchosen⟩ := select_eq_ok.mp h
    obtain ⟨hcomplete, earlier, later, hsplit, hlater⟩ := getLast_filter_eq_some hchosen
    refine ⟨of_decide_eq_true hcomplete,
      ⟨earlier, later, hsplit, fun b hb => of_decide_eq_false (hlater b hb)⟩, ?_⟩
    intro attempts' hstand
    refine select_eq_ok.mpr ⟨hinputs, hchain.of_standsFor hstand, ?_⟩
    rw [List.getLast?_filter] at hchosen ⊢
    exact find_of_standsFor (List.forall₂_reverse_iff.mpr hstand) hchosen
  · intro hinputs hchain hnone latest hlatest
    have hempty : attempts.filter (·.Complete expected) = [] := by
      rw [List.filter_eq_nil_iff]
      intro a ha
      simpa using hnone a ha
    rw [select_eq hinputs hlatest hchain, hempty]
    rfl

end

/-- The second attempt observed the only item of the Run. -/
def secondAttempt : VerifiedAttemptResolutionSet where
  attemptId := "attempt-2"
  attemptNo := 2
  attemptFence := 2
  attemptItemSetDigest := Digest.zero
  items := [⟨firstItem, retriedItem.effective⟩]
  accepted := rfl

/-- The third attempt, with what it observed. -/
def thirdAttempt (items : List VerifiedAttemptItemResolution)
    (accepted : VerifiedAttemptResolutionSet.Fields.postInit
      ⟨"attempt-3", 3, 3, Digest.zero, items⟩ = .ok ()) : VerifiedAttemptResolutionSet :=
  ⟨⟨"attempt-3", 3, 3, Digest.zero, items⟩, accepted⟩

def emptyThird : VerifiedAttemptResolutionSet := thirdAttempt [] rfl

def strayThird : VerifiedAttemptResolutionSet :=
  thirdAttempt [⟨⟨⟨"manifest-1", 1⟩, rfl⟩, launderedItem.effective⟩] rfl

/-- Although the third attempt stays incomplete under its number and fence, an item of another Run
among its contents refuses the chain; and a Run without items is refused with its only attempt. -/
theorem foreign_contents_refused :
    selectLatestAuthorizedCompleteAttempt [firstItem] Digest.zero 1 1 [secondAttempt, emptyThird]
        "run-1" = .ok secondAttempt ∧
      strayThird.attemptNo = emptyThird.attemptNo ∧
      strayThird.attemptFence = emptyThird.attemptFence ∧
      ¬ strayThird.Complete [firstItem] ∧ ¬ emptyThird.Complete [firstItem] ∧
      selectLatestAuthorizedCompleteAttempt [firstItem] Digest.zero 1 1 [secondAttempt, strayThird]
        "run-1" = .error (.domainValidation "authorized_retry_selection" "items"
          "cross_run_item") ∧
      AuthorizedChain [] Digest.zero 3 2 [emptyThird] ∧ emptyThird.Complete [] ∧
      selectLatestAuthorizedCompleteAttempt [] Digest.zero 2 2 [emptyThird] "run-1" =
        .error (.domainValidation "authorized_retry_selection" "expected_item_keys"
          "invalid") := by
  refine ⟨by rfl, rfl, rfl, by decide, by decide, by rfl, ?_, by decide, by rfl⟩
  exact AuthorizedChain.cons_iff.mpr ⟨rfl, by decide, rfl, by decide, .nil⟩

/-- The third attempt may as well have observed nothing. -/
theorem select_whole_attempt_second : ∃ chosen, selectLatestAuthorizedCompleteAttempt [firstItem]
      Digest.zero 1 1 [secondAttempt, emptyThird] "run-1" = .ok chosen ∧
    chosen.Complete [firstItem] := by
  have hinputs : SelectionInputs [firstItem] 1 1 "run-1" :=
    ⟨by decide, by decide, rfl, by decide, by decide⟩
  have hchain : AuthorizedChain [firstItem] Digest.zero (1 + 1) 1 [secondAttempt, emptyThird] :=
    AuthorizedChain.cons_iff.mpr ⟨rfl, by decide, rfl, by decide,
      AuthorizedChain.cons_iff.mpr ⟨rfl, by decide, rfl, by decide, .nil⟩⟩
  have hselect := select_whole_attempt [firstItem] Digest.zero 1 1 [secondAttempt, emptyThird]
    "run-1"
  obtain ⟨chosen, hchosen⟩ :=
    hselect.1.mpr ⟨hinputs, hchain, secondAttempt, List.mem_cons_self, by decide⟩
  exact ⟨chosen, hchosen, (hselect.2.1 chosen hchosen).1⟩

end QaRunner
