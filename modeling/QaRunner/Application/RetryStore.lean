import QaRunner.Application.RetryCommitStart
import QaRunner.Domain.RetryConsumption

/-! The store that the retry handlers share: what its gateways promise, and what any step of it
keeps. -/
namespace QaRunner
open Guarded Interleaving PublishOnce Aggregate

/-- A stored result is of this decision and of this intent. -/
structure RetryQueuePublicationResult.Carries (v : RetryQueuePublicationResult)
    (decisionDigest : Digest) (intentDigest : Option Digest) : Prop where
  decision : v.projection.decisionDigest = decisionDigest
  intent : v.projection.retryIntentDigest = intentDigest
  receipt : ∀ receipt ∈ v.receipt, receipt.queueDecisionDigest = decisionDigest ∧
    ∃ digest, receipt.intent.digest = .ok digest ∧ intentDigest = some digest

theorem RetryQueuePublicationResult.receipt_isSome (v : RetryQueuePublicationResult) :
    v.projection.retryIntentDigest.isSome = v.receipt.isSome := by
  have h := v.accepted
  rw [Fields.postInit, Port.invalidIf_eq_ok, ne_eq, not_not] at h
  exact h

theorem RetryQueuePublicationResult.Carries.unique {v : RetryQueuePublicationResult}
    {d d' : Digest} {i i' : Option Digest} (h : v.Carries d i) (h' : v.Carries d' i') :
    d = d' ∧ i = i' :=
  ⟨h.decision.symm.trans h'.decision, h.intent.symm.trans h'.intent⟩

theorem optionalIntentDigest_some {intent : RetryIntent} {digest : Option Digest} :
    optionalIntentDigest (some intent) = .ok digest ↔
      ∃ d, intent.digest = .ok d ∧ digest = some d := by
  rw [optionalIntentDigest]
  cases intent.digest with
  | error e => exact ⟨nofun, nofun⟩
  | ok d => exact ⟨fun h => ⟨d, rfl, (Except.ok.inj h).symm⟩, fun ⟨_, h, hd⟩ => by rw [hd, h]; rfl⟩

theorem optionalIntentDigest_isSome {intent : Option RetryIntent} {digest : Option Digest}
    (h : optionalIntentDigest intent = .ok digest) : intent.isSome = digest.isSome := by
  cases intent with
  | none =>
    cases h
    rfl
  | some intent =>
    obtain ⟨d, -, rfl⟩ := optionalIntentDigest_some.mp h
    rfl

namespace RetryPublication

def identityScope : RetryPublication → RunRetryIdentityScope
  | policy p => p.identityScope
  | unknown p => p.identityScope

/-- The Run of the snapshot that the publication was prepared from. -/
def snapshotRun : RetryPublication → Run
  | policy p => p.expectedSnapshot.run
  | unknown p => p.expectedSnapshot.run

def projection : RetryPublication → RunRetryProjection
  | policy p => p.projection
  | unknown p => p.projection

def intent : RetryPublication → Option RetryIntent
  | policy p => p.intent
  | unknown p => some p.intent

end RetryPublication

/-- The gateways of the retry handlers over one store, and the Run in it. -/
structure RetryStore (σ : Type) where
  queueing : RunRetryGateway σ
  committing : RetryCommitStartGateway σ
  run : σ → Run

namespace RetryStore

variable {σ : Type} (st : RetryStore σ)

def Queued (scope : RunRetryIdentityScope) (v : RetryQueuePublicationResult) (s : σ) : Prop :=
  st.queueing.lookupStored scope s = .ok (some v)

def Committed (scope : RunRetryIdentityScope) (v : StoredRetryCommit) (s : σ) : Prop :=
  st.committing.lookupStored scope s = .ok (some v)

/-- The receipt that is stored for an intent. -/
def Receipted (intentDigest : Digest) (receipt : RetryQueueReceipt) (s : σ) : Prop :=
  st.committing.requireReceiptForUpdate intentDigest s = .ok receipt

/-- A stored result is of one decision and one intent; a stored start is of an Attempt of the Run
that consumed an intent, and of the receipt of that intent. -/
structure Consistent (s : σ) : Prop where
  queued : ∀ scope v, st.Queued scope v s →
    v.Carries v.projection.decisionDigest v.projection.retryIntentDigest
  started : ∀ scope v, st.Committed scope v s → ∃ p receipt,
    v.commit.attempt.retryProvenance = some p ∧
      (st.run s).Consumes p.retryIntentId v.commit.attempt.id ∧
      st.Receipted p.retryIntentDigest receipt s ∧ receipt.digest = .ok v.receiptDigest

/-- What any step keeps: what is stored stays, and the Run moves by its commands. -/
structure Evolves (s s' : σ) : Prop where
  run : ∃ cs, st.run s' = after Run.exec (st.run s) cs
  queued : ∀ scope v, st.Queued scope v s → st.Queued scope v s'
  committed : ∀ scope v, st.Committed scope v s → st.Committed scope v s'
  receipted : ∀ digest receipt, st.Receipted digest receipt s → st.Receipted digest receipt s'
  consistent : st.Consistent s → st.Consistent s'

instance : IsPreorder σ st.Evolves where
  refl _ := ⟨⟨[], rfl⟩, fun _ _ h => h, fun _ _ h => h, fun _ _ h => h, id⟩
  trans _ _ _ h h' := by
    obtain ⟨cs, hcs⟩ := h.run
    obtain ⟨ds, hds⟩ := h'.run
    exact ⟨⟨cs ++ ds, by rw [hds, hcs, after_append]⟩,
      fun scope v hv => h'.queued scope v (h.queued scope v hv),
      fun scope v hv => h'.committed scope v (h.committed scope v hv),
      fun d r hr => h'.receipted d r (h.receipted d r hr),
      fun hs => h'.consistent (h.consistent hs)⟩

/-- A queued retry is published once under its scope, over the version it was prepared from. -/
inductive RetryPublished (p : RetryPublication) (s : σ) :
    ReplayResult RetryQueuePublicationResult → σ → Prop
  | repeated {v} (hqueued : st.Queued p.identityScope v s)
      (hdecision : v.projection.decisionDigest = p.projection.decisionDigest)
      (hintent : v.projection.retryIntentDigest = p.projection.retryIntentDigest) :
      RetryPublished p s ⟨v, true⟩ s
  | first {v s'} (hvacant : st.queueing.lookupStored p.identityScope s = .ok none)
      (hversion : p.snapshotRun.version = (st.run s).version)
      (hrun : st.run s' = p.projection.run) (hqueued : st.Queued p.identityScope v s')
      (hprojection : v.projection = p.projection)
      (hreceipt : ∀ receipt ∈ v.receipt, some receipt.intent = p.intent ∧
        receipt.queueDecisionDigest = p.projection.decisionDigest)
      (hothers : ∀ scope, scope ≠ p.identityScope →
        st.queueing.lookupStored scope s' = st.queueing.lookupStored scope s)
      (hcommits : ∀ scope,
        st.committing.lookupStored scope s' = st.committing.lookupStored scope s)
      (hreceipts : ∀ d receipt, st.Receipted d receipt s → st.Receipted d receipt s') :
      RetryPublished p s ⟨v, false⟩ s'

/-- A start is published once under its scope, over the version it was prepared from. -/
inductive CommitPublished (p : RetryCommitPublication) (s : σ) :
    ReplayResult CommitStartResult → σ → Prop
  | repeated {v provenance} (hcommitted : st.Committed p.identityScope v s)
      (hprovenance : v.commit.attempt.retryProvenance = some provenance)
      (hintent : p.receipt.intent.digest = .ok provenance.retryIntentDigest) :
      CommitPublished p s ⟨v.commit, true⟩ s
  | first {v s'} (hvacant : st.committing.lookupStored p.identityScope s = .ok none)
      (hversion : p.expectedSnapshot.run.version = (st.run s).version)
      (hrun : st.run s' = p.commit.run) (hcommitted : st.Committed p.identityScope v s')
      (hcommit : v.commit = p.commit) (hdigest : p.receipt.digest = .ok v.receiptDigest)
      (hothers : ∀ scope, scope ≠ p.identityScope →
        st.committing.lookupStored scope s' = st.committing.lookupStored scope s)
      (hqueues : ∀ scope, st.queueing.lookupStored scope s' = st.queueing.lookupStored scope s)
      (hreceipts : ∀ d receipt, st.Receipted d receipt s → st.Receipted d receipt s') :
      CommitPublished p s ⟨v.commit, false⟩ s'

/-- What the handlers rely on their gateways for. -/
structure Lawful : Prop where
  snapshot : ∀ {runId s x}, st.queueing.getMutationSnapshotForUpdate runId s = .ok x →
    x.run = st.run s
  unknownSnapshot : ∀ {runId s x},
    st.queueing.getUnknownMutationSnapshotForUpdate runId s = .ok x → x.run = st.run s
  commitSnapshot : ∀ {runId s x}, st.committing.getSnapshotForUpdate runId s = .ok x →
    x.run = st.run s
  receipt : ∀ {d receipt s}, st.Receipted d receipt s → receipt.intent.digest = .ok d
  publishRetry : ∀ {p s r s'}, st.queueing.publishRetry p s = .ok (r, s') →
    st.RetryPublished p s r s'
  publish : ∀ {p s r s'}, st.committing.publish p s = .ok (r, s') → st.CommitPublished p s r s'

variable {st} {s s' : σ} {run run' : Run}

/-- The Run was this one at some time before. -/
def Since (st : RetryStore σ) (run : Run) (s : σ) : Prop :=
  ∃ cs, st.run s = after Run.exec run cs

theorem since_of_eq (h : run = st.run s) : st.Since run s := ⟨[], h.symm⟩

theorem Since.evolves (h : st.Since run s) (hss' : st.Evolves s s') : st.Since run s' := by
  obtain ⟨cs, hcs⟩ := h
  obtain ⟨ds, hds⟩ := hss'.run
  exact ⟨cs ++ ds, by rw [hds, hcs, after_append]⟩

/-- While the version is the one that was read, so is the Run. -/
theorem Since.eq_of_version (h : st.Since run s) (hversion : run.version = (st.run s).version) :
    st.run s = run := by
  obtain ⟨cs, hcs⟩ := h
  rw [hcs] at hversion ⊢
  exact (Run.versionGuarded.after run cs).2 hversion.symm

theorem Evolves.consumes {intentId attemptId : Str} (h : st.Evolves s s')
    (hconsumes : (st.run s).Consumes intentId attemptId) :
    (st.run s').Consumes intentId attemptId := by
  obtain ⟨cs, hcs⟩ := h.run
  rw [hcs]
  exact hconsumes.after cs

/-- The commands that lead from one Run to the next. -/
def Steps (run run' : Run) : Prop := ∃ cs, run' = after Run.exec run cs

theorem steps_refl (run : Run) : Steps run run := ⟨[], rfl⟩

theorem steps_of_exec {c : Run.Command} (h : run.exec c = .ok run') : Steps run run' :=
  ⟨[c], (apply_of_ok h).symm⟩

theorem evolves_of_retryPublished {p : RetryPublication}
    {r : ReplayResult RetryQueuePublicationResult} (h : st.RetryPublished p s r s')
    (hsince : st.Since p.snapshotRun s) (hsteps : Steps p.snapshotRun p.projection.run)
    (hintent : optionalIntentDigest p.intent = .ok p.projection.retryIntentDigest) :
    st.Evolves s s' := by
  cases h with
  | repeated => exact refl_of st.Evolves s
  | @first v _ hvacant hversion hrun hqueued hprojection hreceipt hothers hcommits hreceipts =>
    have hrun' : ∃ cs, st.run s' = after Run.exec (st.run s) cs := by
      rw [hrun, hsince.eq_of_version hversion]
      exact hsteps
    refine ⟨hrun', fun scope w hw => ?_, fun scope w hw => ?_, hreceipts, fun hs => ⟨?_, ?_⟩⟩
    · have hne : scope ≠ p.identityScope := by
        rintro rfl
        cases hw.symm.trans hvacant
      exact (hothers scope hne).trans hw
    · exact (hcommits scope).trans hw
    · intro scope w hw
      by_cases hscope : scope = p.identityScope
      · subst hscope
        cases hw.symm.trans hqueued
        refine ⟨rfl, rfl, fun receipt hmem => ?_⟩
        obtain ⟨hsame, hqueue⟩ := hreceipt receipt hmem
        rw [← hsame, optionalIntentDigest_some] at hintent
        exact ⟨hprojection ▸ hqueue, hprojection ▸ hintent⟩
      · exact hs.queued scope w ((hothers scope hscope).symm.trans hw)
    · intro scope w hw
      obtain ⟨provenance, receipt, hprovenance, hconsumes, hreceipted, hdigest⟩ :=
        hs.started scope w ((hcommits scope).symm.trans hw)
      obtain ⟨cs, hcs⟩ := hrun'
      exact ⟨provenance, receipt, hprovenance, hcs ▸ hconsumes.after cs,
        hreceipts _ _ hreceipted, hdigest⟩

theorem evolves_of_commitPublished {p : RetryCommitPublication}
    {r : ReplayResult CommitStartResult} (h : st.CommitPublished p s r s')
    (hsince : st.Since p.expectedSnapshot.run s)
    (hsteps : Steps p.expectedSnapshot.run p.commit.run)
    (hconsumes : ∃ provenance, p.commit.attempt.retryProvenance = some provenance ∧
      p.commit.run.Consumes provenance.retryIntentId p.commit.attempt.id ∧
      st.Receipted provenance.retryIntentDigest p.receipt s) : st.Evolves s s' := by
  cases h with
  | repeated => exact refl_of st.Evolves s
  | @first v _ hvacant hversion hrun hcommitted hcommit hdigest hothers hqueues hreceipts =>
    have hrun' : ∃ cs, st.run s' = after Run.exec (st.run s) cs := by
      rw [hrun, hsince.eq_of_version hversion]
      exact hsteps
    have hne : ∀ {scope w}, st.Committed scope w s → scope ≠ p.identityScope := by
      rintro scope w hw rfl
      cases hw.symm.trans hvacant
    refine ⟨hrun', fun scope w hw => (hqueues scope).trans hw,
      fun scope w hw => (hothers scope (hne hw)).trans hw, hreceipts, fun hs => ⟨?_, ?_⟩⟩
    · exact fun scope w hw => hs.queued scope w ((hqueues scope).symm.trans hw)
    · intro scope w hw
      by_cases hscope : scope = p.identityScope
      · subst hscope
        cases hw.symm.trans hcommitted
        obtain ⟨provenance, hprovenance, hnew, hreceipted⟩ := hconsumes
        rw [hcommit, hrun]
        exact ⟨provenance, p.receipt, hprovenance, hnew, hreceipts _ _ hreceipted, hdigest⟩
      · obtain ⟨provenance, receipt, hprovenance, hold, hreceipted, hstored⟩ :=
          hs.started scope w ((hothers scope hscope).symm.trans hw)
        obtain ⟨cs, hcs⟩ := hrun'
        exact ⟨provenance, receipt, hprovenance, hcs ▸ hold.after cs, hreceipts _ _ hreceipted,
          hstored⟩

end RetryStore

end QaRunner
