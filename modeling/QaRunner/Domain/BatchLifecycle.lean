import QaRunner.Domain.BatchSteps

/-! The lifecycle of a Batch over every run of its commands: which facts a terminal state is
stored with, what an intent still allows, and what issuing a command again returns. -/
namespace QaRunner
open Guarded Aggregate

/-- The strings the caller of a cancellation chooses, and the Batch it names, are valid Unicode. -/
def BatchCancellationIntent.Encodable (i : BatchCancellationIntent) : Prop :=
  i.batchId.isUnicode = true ∧ i.idempotencyKey.isUnicode = true ∧ i.actorId.isUnicode = true ∧
    i.reason.isUnicode = true

/-- A request digest covers one integer, the version the request was made against. -/
theorem BatchCancellationIntent.requestDigest_iff {i : BatchCancellationIntent} :
    (∃ digest, i.requestDigest = .ok digest) ↔ SafeInt i.sourceBatchVersion ∧ i.Encodable := by
  simp only [requestDigest, canonicalDigest_eq_ok, exists_and_left, exists_eq', and_true,
    validateJsonValue_dict, validateJsonFields_cons, validateJsonFields_nil, validateJsonValue_str,
    validateJsonValue_text, validateJsonValue_int, true_and, Encodable]
  exact and_left_comm

/-- The digest of a scope item is defined only inside the integers of the canonical form. -/
theorem BatchPreexecutionScopeItem.plan_of_digest {i : BatchPreexecutionScopeItem} {d : Digest}
    (h : i.digest = .ok d) : SafeInt i.shardPlanVersion := by
  have hvalid := (canonicalDigest_eq_ok.mp h).1
  simp only [canonicalPayload, validateJsonValue_dict, validateJsonFields_cons,
    validateJsonValue_int] at hvalid
  tauto

/-- A rejection with a digest names its Batch in valid Unicode. -/
theorem BatchRejection.batch_of_digest {r : BatchRejection} {d : Digest}
    (h : r.digest = .ok d) : r.batchId.isUnicode = true := by
  have hvalid := (canonicalDigest_eq_ok.mp h).1
  simp only [canonicalPayload, validateJsonValue_dict, validateJsonFields_cons,
    validateJsonValue_str] at hvalid
  exact hvalid.2.1

/-- So does a cancellation with a digest. -/
theorem BatchCancellationIntent.batch_of_digest {i : BatchCancellationIntent} {d : Digest}
    (h : i.digest = .ok d) : i.batchId.isUnicode = true := by
  obtain ⟨request, hrequest, -⟩ := bind_eq_ok.mp h
  exact (requestDigest_iff.mp ⟨request, hrequest⟩).2.1

theorem BatchPreexecutionClosureBasis.digest_of_integers {b : BatchPreexecutionClosureBasis}
    (hbatch : b.batchId.isUnicode = true) (hversion : SafeInt b.sourceBatchVersion)
    (hplan : ∀ n ∈ b.shardPlanVersion, SafeInt n) : ∃ digest, b.digest = .ok digest := by
  have hdigests : ∀ path (ds : List Digest),
      validateJsonValue path (.list (ds.map fun d => .str d.value)) = .ok () :=
    fun path ds => validateJsonValue_map fun d _ path => validateJsonValue_text d.value
  apply canonicalDigest_of_valid
  simp only [canonicalPayload, validateJsonValue_dict, validateJsonFields_cons,
    validateJsonFields_nil, validateJsonValue_str, validateJsonValue_text, validateJsonValue_int,
    validateJsonValue_optionalInt, validateJsonValue_optionalDigestValue, hdigests, and_true,
    true_and]
  exact ⟨hbatch, hversion, hplan⟩

/-- A planned snapshot has an item, and the item has the plan version of the snapshot. -/
theorem BatchPreexecutionSnapshot.plan_item (s : BatchPreexecutionSnapshot) {n : ℤ}
    (h : s.shardPlanVersion = some n) : ∃ item ∈ s.scopeItems, item.shardPlanVersion = n := by
  have haccepted := s.accepted
  simp only [Fields.postInit, then_eq_ok] at haccepted
  obtain ⟨-, -, -, hscope⟩ := haccepted
  cases hkind : s.scopeKind with
  | prePlan => simp [hkind, requirePreplanScope, then_eq_ok, each, invalidIf_eq_ok, h] at hscope
  | plannedUnmaterialized =>
    simp only [hkind, Fields.requireScopeItemBindings, bind_eq_ok, exists_unit, need_eq_ok,
      invalidIf_eq_ok] at hscope
    obtain ⟨-, -, -, first, hfirst, hbound⟩ := hscope
    have hmem := List.mem_of_head? hfirst
    refine ⟨first, hmem, ?_⟩
    by_contra hne
    exact hbound ⟨first, hmem, by simp [h, hne]⟩

theorem buildPreexecutionBasis_digest {phase outcome : BatchState}
    {kind : BatchPreexecutionTerminalKind} {rejectionDigest intentDigest : Option Digest}
    {snapshot : BatchPreexecutionSnapshot} {basis : BatchPreexecutionClosureBasis}
    (hbuild : buildPreexecutionBasis phase kind rejectionDigest intentDigest snapshot outcome =
      .ok basis) (hbatch : snapshot.batchId.isUnicode = true)
    (hversion : SafeInt snapshot.sourceBatchVersion) : ∃ digest, basis.digest = .ok digest := by
  obtain ⟨itemDigests, hitems, hbasis⟩ := buildPreexecutionBasis_eq_ok.mp hbuild
  apply BatchPreexecutionClosureBasis.digest_of_integers
  · rw [hbasis]
    exact hbatch
  · rw [hbasis]
    exact hversion
  · intro n hplan
    rw [hbasis] at hplan
    obtain ⟨item, hmem, rfl⟩ := snapshot.plan_item hplan
    obtain ⟨digest, hdigest⟩ := collect_ok_mem hitems item hmem
    exact item.plan_of_digest hdigest

/-- How many transitions a state takes from the first one; every state off that path is last. -/
def BatchState.rank : BatchState → ℤ
  | .draft => 0
  | .validating => 1
  | .collecting => 2
  | .planning => 3
  | .awaitingAdmission => 4
  | .queued => 5
  | .running => 6
  | _ => 7

theorem BatchState.rank_le (s : BatchState) : s.rank ≤ 7 := by
  cases s <;> decide

theorem BatchState.rank_of_allowed {s t : BatchState} (h : t ∈ s.allowedTransitions) :
    t.rank = s.rank + 1 := by
  cases s <;> simp only [allowedTransitions, List.mem_singleton, List.not_mem_nil] at h <;>
    subst h <;> rfl

/-- The states only a fact-aware command leads to. -/
def BatchState.closed : BatchState → Bool
  | .cancelled | .rejected => true
  | _ => false

theorem BatchState.closed_of_allowed {s t : BatchState} (h : t ∈ s.allowedTransitions) :
    t.closed = false := by
  cases s <;> simp only [allowedTransitions, List.mem_singleton, List.not_mem_nil] at h <;>
    subst h <;> rfl

theorem BatchState.closed_of_prestart {s : BatchState} (h : s.prestartCancel = true) :
    s.closed = false := by
  cases s <;> first | rfl | cases h

theorem BatchState.rank_of_prestart {s : BatchState} (h : s.prestartCancel = true) :
    s.rank ≤ 5 := by
  cases s <;> first | decide | cases h

theorem BatchState.prestart_of_stage {s : BatchState} (h : s.rejectionStage.isSome) :
    s.prestartCancel = true := by
  cases s <;> first | rfl | cases h

namespace Batch

variable {b b' : Batch} {v : ℤ}

/-- A Batch as it is first stored. -/
def Opened (b : Batch) : Prop :=
  (∃ batchId, create batchId = .ok b) ∨ ∃ batchId suite requestDigest idempotencyScope
    idempotencyKey createdAt suiteRevisionId priorityClass deadlineAt,
    openForSuite batchId suite requestDigest idempotencyScope idempotencyKey createdAt
      suiteRevisionId priorityClass deadlineAt = .ok b

theorem Opened.facts (h : Opened b) : b.state = .draft ∧ b.version = 0 ∧
    b.cancellationIntent = none ∧ b.preexecutionClosureBasis = none := by
  rcases h with ⟨batchId, h⟩ | ⟨batchId, suite, requestDigest, scope, key, createdAt, revisionId,
    priority, deadlineAt, h⟩
  · rw [create, new_eq_ok] at h
    simp [h]
  · simp only [openForSuite, bind_eq_ok, new_eq_ok] at h
    obtain ⟨-, -, -, -, -, -, -, -, -, -, -, -, h⟩ := h
    simp [h]

/-- What holds from the first stored Batch on: the version counts the steps taken, and no terminal
state is reached without a closure basis. -/
structure Lifecycle (b : Batch) : Prop where
  bounded : b.version ≤ b.state.rank + if b.cancellationIntent.isSome then 1 else 0
  grounded : b.state.closed = true → b.preexecutionClosureBasis.isSome

theorem Change.lifecycle (h : b.Change b') (hb : Lifecycle b) : Lifecycle b' := by
  have hbounded := hb.bounded
  cases h with
  | advance target hnone hallowed hnext =>
    have hrank := BatchState.rank_of_allowed hallowed
    constructor
    · simp only [hnext, hnone] at hbounded ⊢
      omega
    · intro hclosed
      rw [hnext, BatchState.closed_of_allowed hallowed] at hclosed
      cases hclosed
  | cancel intent hnone hprestart hversion hnext =>
    constructor
    · simp only [hnext, hnone, Option.isSome_none, Bool.false_eq_true, if_false,
        Option.isSome_some, if_true] at hbounded ⊢
      omega
    · intro hclosed
      rw [hnext, BatchState.closed_of_prestart hprestart] at hclosed
      cases hclosed
  | reject rejection basis hnone hstage hnext =>
    have hrank := BatchState.rank_of_prestart (BatchState.prestart_of_stage hstage)
    have hlast : BatchState.rejected.rank = 7 := rfl
    constructor
    · simp only [hnext, hnone, hlast, Option.isSome_none, Bool.false_eq_true, if_false]
        at hbounded ⊢
      omega
    · intro _
      rw [hnext]
      rfl
  | close basis hintent hprestart hnext =>
    have hrank := BatchState.rank_of_prestart hprestart
    have hlast : BatchState.cancelled.rank = 7 := rfl
    constructor
    · simp only [hnext, hintent, hlast, if_true] at hbounded ⊢
      omega
    · intro _
      rw [hnext]
      rfl

theorem reachable_lifecycle (h : Reachable exec Opened b) : Lifecycle b := by
  apply reachable_induction ?_ ?_ h
  · intro s hs
    obtain ⟨hstate, hversion, hintent, hbasis⟩ := hs.facts
    constructor <;> simp [hstate, hversion, hintent, BatchState.rank, BatchState.closed]
  · intro s c s' hs hok
    rcases exec_cases hok with rfl | ⟨-, hchange⟩
    · exact hs
    · exact hchange.lifecycle hs

theorem Lifecycle.version_safe (h : Lifecycle b) : SafeInt b.version := by
  have hbounded := h.bounded
  have hrank := b.state.rank_le
  have hnonneg : 0 ≤ b.version := by
    have haccepted := b.accepted
    simp only [Fields.postInit, then_eq_ok, invalidIf_eq_ok] at haccepted
    omega
  unfold SafeInt
  split at hbounded <;> omega

/-- A rejection fact and a rejection basis bound to its digest are stored. -/
def RejectionStored (b : Batch) : Prop :=
  ∃ rejection basis digest, b.rejectionFact = some rejection ∧
    b.preexecutionClosureBasis = some basis ∧ basis.terminalKind = .rejection ∧
    rejection.digest = .ok digest ∧ basis.rejectionFactDigest = some digest

/-- A cancellation intent and a prestart cancel basis are stored. -/
def CancellationStored (b : Batch) : Prop :=
  ∃ intent basis, b.cancellationIntent = some intent ∧
    b.preexecutionClosureBasis = some basis ∧ basis.terminalKind = .prestartCancel

theorem RejectionStored.state (h : RejectionStored b) : b.state = .rejected := by
  obtain ⟨-, basis, -, -, hbasis, hkind, -, -⟩ := h
  exact (rejection_facts hbasis hkind).1

theorem CancellationStored.state (h : CancellationStored b) : b.state = .cancelled := by
  obtain ⟨-, basis, -, hbasis, hkind⟩ := h
  exact (cancellation_facts hbasis hkind).1

/-- A stored basis belongs to exactly one of the two terminals. -/
theorem stored_of_basis {basis : BatchPreexecutionClosureBasis}
    (hbasis : b.preexecutionClosureBasis = some basis) :
    RejectionStored b ∨ CancellationStored b := by
  cases hkind : basis.terminalKind with
  | rejection =>
    obtain ⟨-, -, rejection, digest, hrejection, hdigest, hbound⟩ := rejection_facts hbasis hkind
    exact Or.inl ⟨rejection, basis, digest, hrejection, hbasis, hkind, hdigest, hbound⟩
  | prestartCancel =>
    obtain ⟨-, -, intent, -, hintent, -⟩ := cancellation_facts hbasis hkind
    exact Or.inr ⟨intent, basis, hintent, hbasis, hkind⟩

theorem Lifecycle.rejected_iff (h : Lifecycle b) : b.state = .rejected ↔ RejectionStored b := by
  refine ⟨fun hstate => ?_, RejectionStored.state⟩
  obtain ⟨basis, hbasis⟩ := Option.isSome_iff_exists.mp (h.grounded (by rw [hstate]; rfl))
  refine (stored_of_basis hbasis).resolve_right fun hcancelled => ?_
  have hother := hcancelled.state
  rw [hstate] at hother
  cases hother

theorem Lifecycle.cancelled_iff (h : Lifecycle b) :
    b.state = .cancelled ↔ CancellationStored b := by
  refine ⟨fun hstate => ?_, CancellationStored.state⟩
  obtain ⟨basis, hbasis⟩ := Option.isSome_iff_exists.mp (h.grounded (by rw [hstate]; rfl))
  refine (stored_of_basis hbasis).resolve_left fun hrejected => ?_
  have hother := hrejected.state
  rw [hstate] at hother
  cases hother

/-- The rejection and the cancellation of a Batch exclude each other. -/
theorem one_terminal_fact (b : Batch) :
    ¬ (b.rejectionFact.isSome ∧ b.cancellationIntent.isSome) := by
  rintro ⟨hrejection, hintent⟩
  cases hbasis : b.preexecutionClosureBasis with
  | none =>
    rw [(open_facts hbasis).1] at hrejection
    cases hrejection
  | some basis =>
    cases hkind : basis.terminalKind with
    | rejection =>
      rw [(rejection_facts hbasis hkind).2.1] at hintent
      cases hintent
    | prestartCancel =>
      rw [(cancellation_facts hbasis hkind).2.1] at hrejection
      cases hrejection

/-- What an intent leaves possible: it stays, and the state stays or becomes cancelled. -/
def OnlyCancels (b b' : Batch) : Prop :=
  b.cancellationIntent.isSome → b'.cancellationIntent = b.cancellationIntent ∧
    (b'.state = b.state ∨ b'.state = .cancelled)

theorem OnlyCancels.refl (b : Batch) : OnlyCancels b b := fun _ => ⟨rfl, Or.inl rfl⟩

theorem OnlyCancels.trans {c : Batch} (h : OnlyCancels b b') (h' : OnlyCancels b' c) :
    OnlyCancels b c := by
  intro hintent
  obtain ⟨hsame, hstate⟩ := h hintent
  obtain ⟨hsame', hstate'⟩ := h' (by rwa [hsame])
  refine ⟨hsame'.trans hsame, ?_⟩
  rcases hstate' with hstate' | hstate'
  · rwa [hstate']
  · exact Or.inr hstate'

theorem Change.onlyCancels (h : b.Change b') : OnlyCancels b b' := by
  intro hintent
  cases h with
  | advance _ hnone _ _ => simp [hnone] at hintent
  | cancel _ hnone _ _ _ => simp [hnone] at hintent
  | reject _ _ hnone _ _ => simp [hnone] at hintent
  | close basis _ _ hnext =>
    rw [hnext]
    exact ⟨rfl, Or.inr rfl⟩

theorem after_onlyCancels (b : Batch) (cs : List Command) : OnlyCancels b (after exec b cs) := by
  apply after_related OnlyCancels.refl (fun _ _ _ => OnlyCancels.trans)
  intro s c s' h
  rcases exec_cases h with rfl | ⟨-, hchange⟩
  · exact .refl _
  · exact hchange.onlyCancels

theorem Change.version (h : b.Change b') : b'.version = b.version + 1 := by
  cases h with
  | advance _ _ _ hnext => rw [hnext]
  | cancel _ _ _ _ hnext => rw [hnext]
  | reject _ _ _ _ hnext => rw [hnext]
  | close _ _ _ hnext => rw [hnext]

theorem versionGuarded : VersionGuarded exec (fun b => b.version) Command.expectedVersion := by
  intro b c b' h hne
  obtain ⟨hversion, hchange⟩ := (exec_cases h).resolve_left hne
  exact ⟨hversion, hchange.version⟩

/-- No change starts in a state that only a fact-aware command reaches. -/
theorem Change.not_closed (h : b.Change b') : b.state.closed = false := by
  cases h with
  | advance _ _ hallowed _ =>
    cases hstate : b.state with
    | cancelled | rejected => simp [hstate, BatchState.allowedTransitions] at hallowed
    | _ => rfl
  | cancel _ _ hprestart _ _ => exact BatchState.closed_of_prestart hprestart
  | reject _ _ _ hstage _ =>
    exact BatchState.closed_of_prestart (BatchState.prestart_of_stage hstage)
  | close _ _ hprestart _ => exact BatchState.closed_of_prestart hprestart

theorem closed_absorbing (h : b.state.closed = true) : Absorbing exec b := by
  intro c b' hok
  rcases exec_cases hok with hsame | ⟨-, hchange⟩
  · exact hsame
  · rw [hchange.not_closed] at h
    cases h

/-- The request of a new intent is stored without its digest, which a replay compares. -/
theorem requestCancel_replay {intent : BatchCancellationIntent} (hb : Lifecycle b)
    (h : b.requestCancel intent v = .ok b') :
    b'.requestCancel intent v = .ok b' ↔ b' = b ∨ intent.Encodable := by
  rcases requestCancel_eq_ok.mp h with ⟨-, -, -, -, -, -, rfl⟩ | hnew
  · exact iff_of_true h (Or.inl rfl)
  · obtain ⟨hnone, -, -, -, ⟨-, hsource⟩, -, hnext⟩ := hnew
    have hstored : b'.cancellationIntent = some intent := by rw [hnext]
    constructor
    · intro hagain
      right
      rcases requestCancel_eq_ok.mp hagain with ⟨-, digest, -, -, -, hdigest, -⟩ | ⟨hnone', -⟩
      · exact (BatchCancellationIntent.requestDigest_iff.mp ⟨digest, hdigest⟩).2
      · cases hstored.symm.trans hnone'
    · rintro (rfl | hencodable)
      · cases hstored.symm.trans hnone
      · obtain ⟨digest, hdigest⟩ := BatchCancellationIntent.requestDigest_iff.mpr
          ⟨hsource ▸ hb.version_safe, hencodable⟩
        exact requestCancel_eq_ok.mpr
          (Or.inl ⟨intent, digest, hstored, rfl, hdigest, hdigest, rfl⟩)

theorem rejectPreexecution_replay {rejection : BatchRejection}
    {snapshot : BatchPreexecutionSnapshot} (hb : Lifecycle b)
    (h : b.rejectPreexecution rejection snapshot v = .ok b') :
    b'.rejectPreexecution rejection snapshot v = .ok b' := by
  rcases rejectPreexecution_cases h with rfl | hnew
  · exact h
  · obtain ⟨-, -, -, -, ⟨hrejected, hbatch, -, hsource⟩, -, digest, basis, hdigest, hbinding,
      hbuild, hnext⟩ := recordRejection_eq_ok.mp hnew
    have hunicode : snapshot.batchId.isUnicode = true := by
      rw [hbatch, ← hrejected]
      exact rejection.batch_of_digest hdigest
    obtain ⟨basisDigest, hbasisDigest⟩ :=
      buildPreexecutionBasis_digest hbuild hunicode (hsource ▸ hb.version_safe)
    obtain ⟨_, -, hbasis⟩ := buildPreexecutionBasis_eq_ok.mp hbuild
    have hphase : basis.sourcePhase = b.state := by rw [hbasis]
    have hstored : b'.rejectionFact = some rejection := by rw [hnext]
    simp only [rejectPreexecution, hstored, if_true]
    exact replayRejection_eq_ok.mpr ⟨digest, basis, basis, hdigest, hdigest, hbinding,
      by rw [hnext], by rwa [hphase], basisDigest, hbasisDigest, hbasisDigest, by rw [hnext], rfl⟩

theorem finalizeUnmaterializedCancel_replay {snapshot : BatchPreexecutionSnapshot}
    (hb : Lifecycle b) (h : b.finalizeUnmaterializedCancel snapshot v = .ok b') :
    b'.finalizeUnmaterializedCancel snapshot v = .ok b' := by
  rcases finalizeUnmaterializedCancel_cases h with rfl | hnew
  · exact h
  · obtain ⟨-, -, -, intent, hintent, ⟨hbatch, hsource⟩, -, digest, basis, hdigest, hbinding,
      hbuild, hnext⟩ := recordCancel_eq_ok.mp hnew
    have hunicode : snapshot.batchId.isUnicode = true := by
      rw [hbatch, ← intent_batch hintent]
      exact intent.batch_of_digest hdigest
    obtain ⟨basisDigest, hbasisDigest⟩ :=
      buildPreexecutionBasis_digest hbuild hunicode (hsource ▸ hb.version_safe)
    obtain ⟨_, -, hbasis⟩ := buildPreexecutionBasis_eq_ok.mp hbuild
    have hphase : basis.sourcePhase = b.state := by rw [hbasis]
    have hkind : basis.terminalKind = .prestartCancel := by rw [hbasis]
    have hintent' : b'.cancellationIntent = some intent := by rw [hnext]; exact hintent
    have hbasis' : b'.preexecutionClosureBasis = some basis := by rw [hnext]
    simp only [finalizeUnmaterializedCancel, hintent', hbasis', hkind, if_true]
    exact replayCancel_eq_ok.mpr ⟨digest, basis, hdigest, hbinding, by rwa [hphase], basisDigest,
      hbasisDigest, hbasisDigest, by rw [hnext], rfl⟩

/-- The commands that carry an identity to replay by. -/
def Command.idempotent : Command → Bool
  | .transition .. => false
  | _ => true

/-- The digest that a replay of the command compares exists. -/
def Command.Encodable : Command → Prop
  | .requestCancel intent _ => intent.Encodable
  | _ => True

theorem exec_replay {c : Command} (hb : Lifecycle b) (hidempotent : c.idempotent = true)
    (h : b.exec c = .ok b') : b'.exec c = .ok b' ↔ b' = b ∨ c.Encodable := by
  cases c with
  | transition => cases hidempotent
  | requestCancel => exact requestCancel_replay hb h
  | rejectPreexecution =>
    exact iff_of_true (rejectPreexecution_replay hb h) (Or.inr trivial)
  | finalizeUnmaterializedCancel =>
    exact iff_of_true (finalizeUnmaterializedCancel_replay hb h) (Or.inr trivial)

/-- Every Batch that some sequence of commands leads to from an opened one: its terminal states
are the ones their facts are stored with, it holds at most one of a rejection and a cancellation,
an intent leaves only the way to cancelled, the two terminals are final, versions count the
changes, and a fact-aware command issued again returns the Batch it left, for a new request to
cancel exactly when the strings it carries are valid Unicode. -/
theorem batch_lifecycle (hb : Reachable exec Opened b) :
    (b.state = .rejected ↔ RejectionStored b) ∧
    (b.state = .cancelled ↔ CancellationStored b) ∧
    ¬ (b.rejectionFact.isSome ∧ b.cancellationIntent.isSome) ∧
    (b.cancellationIntent.isSome → ∀ cs,
      (after exec b cs).cancellationIntent = b.cancellationIntent ∧
        ((after exec b cs).state = b.state ∨ (after exec b cs).state = .cancelled)) ∧
    (b.state = .rejected ∨ b.state = .cancelled →
      Absorbing exec b ∧ ∀ cs, after exec b cs = b) ∧
    (∀ c b', b.exec c = .ok b' → b' ≠ b →
      c.expectedVersion = b.version ∧ b'.version = b.version + 1) ∧
    ∀ c b', c.idempotent = true → b.exec c = .ok b' →
      (b'.exec c = .ok b' ↔ b' = b ∨ c.Encodable) := by
  have hlife := reachable_lifecycle hb
  refine ⟨hlife.rejected_iff, hlife.cancelled_iff, b.one_terminal_fact, ?_, ?_, ?_, ?_⟩
  · intro hintent cs
    exact after_onlyCancels b cs hintent
  · intro hterminal
    have habsorbing := closed_absorbing (b := b) (by rcases hterminal with h | h <;> rw [h] <;> rfl)
    exact ⟨habsorbing, habsorbing.after_eq⟩
  · intro c b' h hne
    exact versionGuarded b c b' h hne
  · intro c b' hidempotent h
    exact exec_replay hlife hidempotent h

def draft : Batch where
  id := "batch-1"
  state := .draft
  version := 0
  accepted := by decide

def cancelDraft : BatchCancellationIntent where
  batchId := "batch-1"
  projectId := "project-1"
  suiteRevisionId := "revision-1"
  sourceBatchVersion := 0
  idempotencyKey := "cancel-1"
  source := .userRequest
  actorId := "user-1"
  reason := "stop"
  authorizationDigest := Digest.zero
  scope := ⟨⟨.prePlan, some Digest.zero, none, none, none, none⟩, by decide⟩
  recordedAt := ⟨1000000, some 0⟩
  accepted := by decide

/-- The draft with its cancellation requested. -/
def requestedDraft : Batch where
  id := "batch-1"
  state := .draft
  version := 1
  cancellationIntent := some cancelDraft
  accepted := by decide

theorem requestedDraft_reachable : Reachable exec Opened requestedDraft :=
  ⟨draft, [.requestCancel cancelDraft 0], Or.inl ⟨"batch-1", by decide⟩, by decide +kernel⟩

theorem requestedDraft_only_cancels : requestedDraft.cancellationIntent.isSome ∧ ∀ cs,
    (after exec requestedDraft cs).state = .draft ∨
      (after exec requestedDraft cs).state = .cancelled :=
  ⟨rfl, fun cs => ((batch_lifecycle requestedDraft_reachable).2.2.2.1 rfl cs).2⟩

/-- A cancellation whose reason is a lone surrogate. -/
def strayCancel : BatchCancellationIntent :=
  { cancelDraft with
    reason := .stray "" 0 ""
    accepted := by decide }

def strayRequested : Batch :=
  { requestedDraft with
    cancellationIntent := some strayCancel
    accepted := by decide }

/-- It is stored and cannot be requested again, for no digest of it exists. -/
theorem stray_cancel_not_replayable : Reachable exec Opened draft ∧
    draft.requestCancel strayCancel 0 = .ok strayRequested ∧
    strayRequested.requestCancel strayCancel 0 =
      .error (.canonicalization "$.payload.reason" "string is not valid Unicode") :=
  ⟨⟨draft, [], Or.inl ⟨"batch-1", by decide⟩, rfl⟩, by decide +kernel, by decide +kernel⟩

end Batch
end QaRunner
