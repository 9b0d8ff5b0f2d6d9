import QaRunner.Application.RetryStore

/-! What the retry handlers store over one store, and when they answer with what is stored. -/
namespace QaRunner
open Guarded Interleaving PublishOnce Aggregate

/-- The versions are the ones that the command expects. -/
theorem requireSnapshotVersions_eq_ok {attemptId runId : Str} {v v' w w' : ℤ} {u : Unit} :
    requireSnapshotVersions attemptId runId v v' w w' = .ok u ↔ v = v' ∧ w = w' := by
  simp only [requireSnapshotVersions, then_eq_ok, Raises.refuseIf_eq_ok, ne_eq, not_not]

/-- A publication of this decision and this intent, prepared from this Run. -/
structure RetryPublication.Prepared (p : RetryPublication) (scope : RunRetryIdentityScope)
    (run : Run) (decisionDigest : Digest) (intentDigest : Option Digest) : Prop where
  scope : p.identityScope = scope
  snapshotRun : p.snapshotRun = run
  steps : RetryStore.Steps run p.projection.run
  decision : p.projection.decisionDigest = decisionDigest
  retryIntent : p.projection.retryIntentDigest = intentDigest
  intent : optionalIntentDigest p.intent = .ok intentDigest

namespace RetryStore

variable {σ : Type} {st : RetryStore σ} {s s' : σ} {scope : RunRetryIdentityScope}
  {content : Digest → Option Digest → Prop} {d : Digest} {i : Option Digest}

/-- The result that is stored under a scope is of such a decision and intent. -/
def QueuedOf (st : RetryStore σ) (scope : RunRetryIdentityScope)
    (content : Digest → Option Digest → Prop) (v : RetryQueuePublicationResult) (s : σ) : Prop :=
  st.Queued scope v s ∧ ∃ d i, content d i ∧ v.Carries d i

/-- The first result under a scope was stored. -/
def Queues (st : RetryStore σ) (scope : RunRetryIdentityScope)
    (content : Digest → Option Digest → Prop) (s : σ) (v : RetryQueuePublicationResult) (s' : σ) :
    Prop :=
  st.queueing.lookupStored scope s = .ok none ∧ st.QueuedOf scope content v s'

theorem QueuedOf.evolves {v : RetryQueuePublicationResult} (h : st.QueuedOf scope content v s)
    (hss' : st.Evolves s s') : st.QueuedOf scope content v s' := ⟨hss'.queued _ _ h.1, h.2⟩

theorem stores_of_retryPublished {p : RetryPublication} {run : Run}
    {r : ReplayResult RetryQueuePublicationResult} (hp : p.Prepared scope run d i)
    (hcontent : content d i) (hs : st.Consistent s) (h : st.RetryPublished p s r s') :
    Handler.Stores (st.QueuedOf scope content) (st.Queues scope content) s r s' := by
  obtain ⟨rfl, -, -, rfl, rfl, hintent⟩ := hp
  cases h with
  | @repeated v hqueued hdecision hsame =>
    have hcarries := hs.queued _ _ hqueued
    rw [hdecision, hsame] at hcarries
    exact .repeated ⟨hqueued, _, _, hcontent, hcarries⟩
  | @first v _ hvacant _ _ hqueued hprojection hreceipt =>
    refine .first ⟨hvacant, hqueued, _, _, hcontent, by rw [hprojection], by rw [hprojection], ?_⟩
    intro receipt hmem
    obtain ⟨hsame, hqueue⟩ := hreceipt receipt hmem
    rw [← hsame, optionalIntentDigest_some] at hintent
    exact ⟨hqueue, hintent⟩

theorem Lawful.publishes (hl : st.Lawful) {p : RetryPublication} {run : Run}
    {r : ReplayResult RetryQueuePublicationResult} (hp : p.Prepared scope run d i)
    (hcontent : content d i) (hs : st.Consistent s) (hsince : st.Since run s)
    (h : st.queueing.publishRetry p s = .ok (r, s')) : st.Evolves s s' ∧
      Handler.Stores (st.QueuedOf scope content) (st.Queues scope content) s r s' := by
  have hpublished := hl.publishRetry h
  refine ⟨evolves_of_retryPublished hpublished ?_ ?_ ?_,
    stores_of_retryPublished hp hcontent hs hpublished⟩
  · rw [hp.snapshotRun]
    exact hsince
  · rw [hp.snapshotRun]
    exact hp.steps
  · rw [hp.retryIntent]
    exact hp.intent

end RetryStore

/-- The decision that a command queues, and the intent with it. -/
def QueuePolicyRetryCommand.Content (command : QueuePolicyRetryCommand) (decisionDigest : Digest)
    (intentDigest : Option Digest) : Prop :=
  command.decision.decisionDigest = .ok decisionDigest ∧
    command.decision.retryIntentDigest = intentDigest

namespace QueuePolicyRetry

variable {σ : Type} {st : RetryStore σ} {command : QueuePolicyRetryCommand}
  {authority : RunRetryWriteAuthority} {snapshot : RunRetryMutationSnapshot} {s s' : σ}

theorem intentDigest_eq (command : QueuePolicyRetryCommand) :
    optionalIntentDigest command.candidateIntent = .ok command.decision.retryIntentDigest := by
  have h := command.accepted
  simp only [QueuePolicyRetryCommand.Fields.postInit, bind_eq_ok, exists_unit,
    invalidPolicyRetryIf, invalidIf_eq_ok, ne_eq, not_not] at h
  obtain ⟨-, digest, hdigest, hsame, -⟩ := h
  rw [hdigest, hsame]

/-- What is stored is compared with the decision and the intent of the command. -/
theorem replayMismatch_eq_ok_false {v : RetryQueuePublicationResult} :
    replayMismatch command v = .ok false ↔ ∃ d i, command.Content d i ∧ v.Carries d i := by
  have hintent := intentDigest_eq command
  have hsome := optionalIntentDigest_isSome hintent
  have hreceipt := v.receipt_isSome
  simp only [replayMismatch, anyOf_eq_ok_false, List.forall_mem_cons, List.not_mem_nil,
    false_imp_iff, implies_true, and_true, differs_eq_ok_false, Except.ok.injEq,
    decide_eq_false_iff_not, ne_eq, not_not]
  constructor
  · rintro ⟨hsame, hdecision, hnone, hbound⟩
    refine ⟨_, _, ⟨hdecision, rfl⟩, rfl, hsame, fun receipt hmem => ?_⟩
    have hmem : v.receipt = some receipt := hmem
    cases hcandidate : command.candidateIntent with
    | none => simp [hcandidate, hmem] at hnone
    | some intent =>
      simp only [hcandidate, hmem, anyOf_eq_ok_false, List.forall_mem_cons, List.not_mem_nil,
        false_imp_iff, implies_true, and_true, differs_eq_ok_false, bind_eq_ok] at hbound
      obtain ⟨⟨digest, hstored, hdigest⟩, hqueue⟩ := hbound
      rw [hcandidate, optionalIntentDigest_some] at hintent
      obtain ⟨d, hd, hintent⟩ := hintent
      cases hd.symm.trans hdigest
      exact ⟨Except.ok.inj (hqueue.symm.trans hdecision), digest, hstored, hintent⟩
  · rintro ⟨_, _, ⟨hdigest, rfl⟩, hcarries⟩
    obtain rfl := hcarries.decision
    refine ⟨hcarries.intent, hdigest, ?_, ?_⟩
    · rw [hcarries.intent, ← hsome] at hreceipt
      cases hcandidate : command.candidateIntent <;> cases hstored : v.receipt <;>
        simp [hcandidate, hstored] at hreceipt ⊢
    · cases hcandidate : command.candidateIntent with
      | none => rfl
      | some intent =>
        cases hstored : v.receipt with
        | none => rfl
        | some receipt =>
          obtain ⟨hqueue, d, hd, hsame⟩ := hcarries.receipt receipt hstored
          rw [hcandidate, optionalIntentDigest_some] at hintent
          obtain ⟨x, hx, hintent⟩ := hintent
          cases hsame.symm.trans hintent
          simp only [anyOf_eq_ok_false, List.forall_mem_cons, List.not_mem_nil, false_imp_iff,
            implies_true, and_true, differs_eq_ok_false, bind_eq_ok]
          exact ⟨⟨d, hd, hx⟩, hqueue ▸ hdigest⟩

/-- What is stored answers a command about the same decision. -/
theorem replay_eq_ok {v : RetryQueuePublicationResult} {result : QueuePolicyRetryResult} :
    replay command v = .ok result ↔ (∃ d i, command.Content d i ∧ v.Carries d i) ∧
      result = ⟨v.projection, v.receipt, true⟩ := by
  simp only [replay, bind_eq_ok, exists_unit, Raises.domain_eq_ok, Raises.refuseIf_eq_ok,
    Bool.not_eq_true, pure_eq_ok, ← replayMismatch_eq_ok_false]
  constructor
  · rintro ⟨_, hmatched, _, -, rfl, rfl⟩
    exact ⟨hmatched, rfl⟩
  · rintro ⟨hmatched, rfl⟩
    obtain ⟨digest, _, ⟨hdigest, -⟩, -⟩ := replayMismatch_eq_ok_false.mp hmatched
    exact ⟨false, hmatched, digest, hdigest, rfl, rfl⟩

theorem steps_of_queued {run run' : Run} (h : queued command run = .ok run') :
    RetryStore.Steps run run' := by
  unfold queued at h
  cases hintent : command.candidateIntent with
  | none =>
    rw [hintent] at h
    cases h
    exact RetryStore.steps_refl _
  | some intent =>
    rw [hintent] at h
    exact RetryStore.steps_of_exec (c := .queuePolicyRetry intent
      command.decision.toRunRetryDecision command.expectedRunVersion) h

theorem prepared {p : RetryPublication} (h : prepare command authority snapshot = .ok p) :
    ∃ d i, command.Content d i ∧ p.Prepared command.identityScope snapshot.run d i := by
  simp only [prepare, bind_eq_ok, exists_unit, Raises.domain_eq_ok, Raises.port_eq_ok,
    RunRetryPublication.new, construct_eq_ok, pure_eq_ok] at h
  obtain ⟨-, run, hqueued, d, hdecision, _, -, _, -, _, ⟨-, rfl⟩, rfl⟩ := h
  exact ⟨d, _, ⟨hdecision, rfl⟩, rfl, rfl, steps_of_queued hqueued, rfl, rfl,
    intentDigest_eq command⟩

/-- The authority that is current now, when it is the one of the decision. -/
def authorized (gateway : RunRetryGateway σ) (command : QueuePolicyRetryCommand) (s : σ) :
    Raises RunRetryWriteAuthority := do
  let authority ← gateway.requireRetryAuthority command.decision.source.runId s
  requireCurrent command authority
  return authority

theorem require_eq (gateway : RunRetryGateway σ) :
    (handler gateway command).require = .read (authorized gateway command) :=
  Prog.read_checked _ _

theorem authorized_eq_ok {gateway : RunRetryGateway σ} :
    authorized gateway command s = .ok authority ↔
      gateway.requireRetryAuthority command.decision.source.runId s = .ok authority ∧
        authority.Grants command.decision.toRunRetryDecision := by
  simp only [authorized, bind_eq_ok, exists_unit, requireCurrent, Raises.conflictIf_eq_ok, not_not,
    pure_eq_ok]
  constructor
  · rintro ⟨_, hauthority, hgrants, rfl⟩
    exact ⟨hauthority, hgrants⟩
  · rintro ⟨hauthority, hgrants⟩
    exact ⟨_, hauthority, hgrants, rfl⟩

theorem lawful (hl : st.Lawful) (command : QueuePolicyRetryCommand) :
    (handler st.queueing command).Lawful st.Evolves st.Consistent
      (fun a _ => a.Grants command.decision.toRunRetryDecision)
      (fun _ snapshot s => st.Since snapshot.run s) (st.Queued command.identityScope)
      (st.QueuedOf command.identityScope command.Content)
      (st.Queues command.identityScope command.Content) where
  quiet := by
    rw [require_eq]
    exact Prog.quiet_read _
  inv h hs := h.consistent hs
  holds h _ := h.queued _ _
  shows h _ hshown := hshown.evolves h
  made h := h.2
  stays _ hgrants := hgrants
  locked h hsince := hsince.evolves h
  granted h _ := by
    rw [require_eq] at h
    obtain ⟨t, -, -, -, hlook⟩ := h.of_read
    exact (authorized_eq_ok.mp hlook).2
  lookup _ _ hlookup := hlookup
  lock _ _ hlock := RetryStore.since_of_eq (hl.snapshot hlock)
  publish := by
    intro authority snapshot p s r s' _ hsince hs hprepare hpublish
    obtain ⟨d, i, hcontent, hp⟩ := prepared hprepare
    exact hl.publishes hp hcontent hs hsince hpublish

section
variable {v : RetryQueuePublicationResult} {steps : List (σ × σ)}
  {result : Raises QueuePolicyRetryResult}

/-- An execution that finds a result under its scope has failed, or answers with it. -/
theorem found (hl : st.Lawful) (hs : st.Consistent s)
    (hqueued : st.Queued command.identityScope v s)
    (h : Thread st.Evolves (execute st.queueing command) s steps (.done result) s') :
    ((∃ e, result = .error e) ∨ (∃ d i, command.Content d i ∧ v.Carries d i) ∧
      result = .ok ⟨v.projection, v.receipt, true⟩) ∧ Unchanged steps := by
  obtain ⟨hresult, hunchanged⟩ := (lawful hl command).found hs (fun _ => rfl)
    (fun _ t hst _ => hst.queued _ _ hqueued) h
  refine ⟨?_, hunchanged⟩
  rcases hresult with herror | ⟨a, t, -, rfl⟩
  · exact Or.inl herror
  · cases hreplay : replay command v with
    | error e => exact Or.inl ⟨e, hreplay⟩
    | ok b =>
      obtain ⟨hcontent, rfl⟩ := replay_eq_ok.mp hreplay
      exact Or.inr ⟨hcontent, hreplay⟩

theorem replays (hl : st.Lawful) (hs : st.Consistent s)
    (hqueued : st.Queued command.identityScope v s)
    (hcontent : ∃ d i, command.Content d i ∧ v.Carries d i)
    (hcurrent : ∀ t rest, steps = (t, t) :: rest → ∃ a, authorized st.queueing command t = .ok a)
    (h : Thread st.Evolves (execute st.queueing command) s steps (.done result) s') :
    result = .ok ⟨v.projection, v.receipt, true⟩ ∧ Unchanged steps := by
  obtain ⟨a, -, hresult, hunchanged⟩ := (lawful hl command).replays_of_read hs
    (require_eq st.queueing) (fun _ => rfl) hcurrent (fun _ t hst _ => hst.queued _ _ hqueued) h
  exact ⟨hresult.trans (replay_eq_ok.mpr ⟨hcontent, rfl⟩), hunchanged⟩

end

end QueuePolicyRetry

/-- The adjudication that a command queues a retry of, and the intent with it. -/
def QueueAdjudicatedRetryCommand.Content (command : QueueAdjudicatedRetryCommand)
    (decisionDigest : Digest) (intentDigest : Option Digest) : Prop :=
  command.candidateIntent.adjudicationDigest = some decisionDigest ∧
    ∃ digest, command.candidateIntent.digest = .ok digest ∧ intentDigest = some digest

namespace QueueAdjudicatedRetry

variable {σ : Type} {st : RetryStore σ} {command : QueueAdjudicatedRetryCommand}
  {authority : UnknownRetryWriteAuthority} {snapshot : UnknownRetryMutationSnapshot} {s s' : σ}

/-- Under its authority, what is stored is compared with the adjudication and the intent. -/
theorem replayMismatch_eq_ok_false {v : RetryQueuePublicationResult}
    (hgrants : authority.Grants command.candidateIntent) :
    replayMismatch command authority v = .ok false ↔
      ∃ d i, command.Content d i ∧ v.Carries d i := by
  obtain ⟨-, -, -, hadjudication, -⟩ := hgrants
  simp only [replayMismatch, anyOf_eq_ok_false, List.forall_mem_cons, List.not_mem_nil,
    false_imp_iff, implies_true, and_true, bind_eq_ok, pure_eq_ok, Except.ok.injEq,
    decide_eq_false_iff_not, ne_eq, not_not]
  constructor
  · rintro ⟨⟨x, hx, hintent⟩, hdecision, hbound⟩
    refine ⟨_, _, ⟨hadjudication.symm, x, hx, rfl⟩, hdecision, hintent, fun receipt hmem => ?_⟩
    rw [Option.mem_def.mp hmem] at hbound
    simp only [anyOf_eq_ok_false, List.forall_mem_cons, List.not_mem_nil, false_imp_iff,
      implies_true, and_true, differs_eq_ok_false, bind_eq_ok, Except.ok.injEq,
      decide_eq_false_iff_not, not_not] at hbound
    obtain ⟨⟨d, hd, hsame⟩, hqueue⟩ := hbound
    cases hx.symm.trans hsame
    exact ⟨hqueue, x, hd, rfl⟩
  · rintro ⟨d, _, ⟨hdigest, x, hx, rfl⟩, hcarries⟩
    cases hadjudication.trans hdigest
    refine ⟨⟨x, hx, hcarries.intent⟩, hcarries.decision, ?_⟩
    have hreceipt := v.receipt_isSome
    rw [hcarries.intent] at hreceipt
    obtain ⟨receipt, hmem⟩ := Option.isSome_iff_exists.mp hreceipt.symm
    obtain ⟨hqueue, d, hd, hsame⟩ := hcarries.receipt receipt hmem
    cases hsame
    rw [hmem]
    simp only [anyOf_eq_ok_false, List.forall_mem_cons, List.not_mem_nil, false_imp_iff,
      implies_true, and_true, differs_eq_ok_false, bind_eq_ok, Except.ok.injEq,
      decide_eq_false_iff_not, not_not]
    exact ⟨⟨x, hd, hx⟩, hqueue⟩

/-- What is stored answers a command about the same adjudication. -/
theorem replay_eq_ok {v : RetryQueuePublicationResult} {result : QueueAdjudicatedRetryResult}
    (hgrants : authority.Grants command.candidateIntent) :
    replay command authority v = .ok result ↔ (∃ d i, command.Content d i ∧ v.Carries d i) ∧
      result = ⟨v.projection, v.receipt, true⟩ := by
  simp only [replay, bind_eq_ok, exists_unit, Raises.domain_eq_ok, Raises.refuseIf_eq_ok,
    Bool.not_eq_true, pure_eq_ok, ← replayMismatch_eq_ok_false hgrants]
  constructor
  · rintro ⟨_, hmatched, rfl, rfl⟩
    exact ⟨hmatched, rfl⟩
  · rintro ⟨hmatched, rfl⟩
    exact ⟨false, hmatched, rfl, rfl⟩

theorem prepared {p : RetryPublication} (hgrants : authority.Grants command.candidateIntent)
    (h : prepare command authority snapshot = .ok p) :
    ∃ d i, command.Content d i ∧ p.Prepared command.identityScope snapshot.run d i := by
  simp only [prepare, bind_eq_ok, exists_unit, Raises.domain_eq_ok, Raises.port_eq_ok,
    UnknownRetryPublication.new, construct_eq_ok, pure_eq_ok] at h
  obtain ⟨-, run, hqueued, x, hx, _, -, _, ⟨-, rfl⟩, rfl⟩ := h
  obtain ⟨-, -, -, hadjudication, -⟩ := hgrants
  have hsteps : RetryStore.Steps snapshot.run run := RetryStore.steps_of_exec
    (c := .queueAdjudicatedRetry command.candidateIntent command.expectedRunVersion) hqueued
  exact ⟨_, _, ⟨hadjudication.symm, x, hx, rfl⟩, rfl, rfl, hsteps, rfl, rfl,
    optionalIntentDigest_some.mpr ⟨x, hx, rfl⟩⟩

/-- The authority that is current now, when it is the one of the intent. -/
def authorized (gateway : RunRetryGateway σ) (command : QueueAdjudicatedRetryCommand) (s : σ) :
    Raises UnknownRetryWriteAuthority := do
  let authority ← gateway.requireUnknownRetryAuthority command.candidateIntent.runId s
  requireCurrent command authority
  return authority

theorem require_eq (gateway : RunRetryGateway σ) :
    (handler gateway command).require = .read (authorized gateway command) :=
  Prog.read_checked _ _

theorem authorized_eq_ok {gateway : RunRetryGateway σ} :
    authorized gateway command s = .ok authority ↔
      gateway.requireUnknownRetryAuthority command.candidateIntent.runId s = .ok authority ∧
        authority.Grants command.candidateIntent ∧
          authority.attemptVersion = command.expectedAttemptVersion := by
  simp only [authorized, bind_eq_ok, exists_unit, requireCurrent, Raises.conflictIf_eq_ok, not_or,
    ne_eq, not_not, pure_eq_ok]
  constructor
  · rintro ⟨_, hauthority, hgrants, rfl⟩
    exact ⟨hauthority, hgrants⟩
  · rintro ⟨hauthority, hgrants⟩
    exact ⟨_, hauthority, hgrants, rfl⟩

theorem lawful (hl : st.Lawful) (command : QueueAdjudicatedRetryCommand) :
    (handler st.queueing command).Lawful st.Evolves st.Consistent
      (fun a _ => a.Grants command.candidateIntent)
      (fun _ snapshot s => st.Since snapshot.run s) (st.Queued command.identityScope)
      (st.QueuedOf command.identityScope command.Content)
      (st.Queues command.identityScope command.Content) where
  quiet := by
    rw [require_eq]
    exact Prog.quiet_read _
  inv h hs := h.consistent hs
  holds h _ := h.queued _ _
  shows h _ hshown := hshown.evolves h
  made h := h.2
  stays _ hgrants := hgrants
  locked h hsince := hsince.evolves h
  granted h _ := by
    rw [require_eq] at h
    obtain ⟨t, -, -, -, hlook⟩ := h.of_read
    exact (authorized_eq_ok.mp hlook).2.1
  lookup _ _ hlookup := hlookup
  lock _ _ hlock := RetryStore.since_of_eq (hl.unknownSnapshot hlock)
  publish := by
    intro authority snapshot p s r s' hgrants hsince hs hprepare hpublish
    obtain ⟨d, i, hcontent, hp⟩ := prepared hgrants hprepare
    exact hl.publishes hp hcontent hs hsince hpublish

section
variable {v : RetryQueuePublicationResult} {steps : List (σ × σ)}
  {result : Raises QueueAdjudicatedRetryResult}

/-- An execution that finds a result under its scope has failed, or answers with it. -/
theorem found (hl : st.Lawful) (hs : st.Consistent s)
    (hqueued : st.Queued command.identityScope v s)
    (h : Thread st.Evolves (execute st.queueing command) s steps (.done result) s') :
    ((∃ e, result = .error e) ∨ (∃ d i, command.Content d i ∧ v.Carries d i) ∧
      result = .ok ⟨v.projection, v.receipt, true⟩) ∧ Unchanged steps := by
  obtain ⟨hresult, hunchanged⟩ := (lawful hl command).found hs (fun _ => rfl)
    (fun _ t hst _ => hst.queued _ _ hqueued) h
  refine ⟨?_, hunchanged⟩
  rcases hresult with herror | ⟨a, t, hgrants, rfl⟩
  · exact Or.inl herror
  · cases hreplay : replay command a v with
    | error e => exact Or.inl ⟨e, hreplay⟩
    | ok b =>
      obtain ⟨hcontent, rfl⟩ := (replay_eq_ok hgrants).mp hreplay
      exact Or.inr ⟨hcontent, hreplay⟩

theorem replays (hl : st.Lawful) (hs : st.Consistent s)
    (hqueued : st.Queued command.identityScope v s)
    (hcontent : ∃ d i, command.Content d i ∧ v.Carries d i)
    (hcurrent : ∀ t rest, steps = (t, t) :: rest → ∃ a, authorized st.queueing command t = .ok a)
    (h : Thread st.Evolves (execute st.queueing command) s steps (.done result) s') :
    result = .ok ⟨v.projection, v.receipt, true⟩ ∧ Unchanged steps := by
  obtain ⟨a, ⟨t, hlook⟩, hresult, hunchanged⟩ := (lawful hl command).replays_of_read hs
    (require_eq st.queueing) (fun _ => rfl) hcurrent (fun _ t hst _ => hst.queued _ _ hqueued) h
  have hgrants : a.Grants command.candidateIntent := (authorized_eq_ok.mp hlook).2.1
  exact ⟨hresult.trans ((replay_eq_ok hgrants).mpr ⟨hcontent, rfl⟩), hunchanged⟩

end

end QueueAdjudicatedRetry

end QaRunner
