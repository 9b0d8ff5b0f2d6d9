import QaRunner.Application.InMemoryRetry
import QaRunner.Application.RetryExecution
import QaRunner.Domain.PolicyRetry

/-! Any number of retries of one Run, queued and started in any order over one store. -/
namespace QaRunner
open Guarded Interleaving PublishOnce Aggregate

/-- However retries of one Run are queued and started, with anything beside them that keeps what is
stored and moves the Run by its commands: no intent is consumed by two Attempts; every execution
that ended settled, and the others have changed nothing yet; under an authority that was superseded
it was refused. Beside that, when no start takes the key of another Attempt and no scope is reused
with another acceptance, a later execution under the scope of an original answers with its result
if it asks for the same, and is refused if it does not. -/
theorem retry_handoff_safe {ι σ : Type} [DecidableEq ι] {st : RetryStore σ}
    {executions : ι → RetryExecution} {s₀ : σ} {c₁ c₂ : Config ι σ Raised RetryAnswer}
    {events₁ events₂ : List (Event ι σ)} (hl : st.Lawful) (hs : st.Consistent s₀)
    (h₁ : Interleaving.Run st.Evolves ⟨s₀, fun i => (executions i).program st⟩ events₁ c₁)
    (h₂ : Interleaving.Run st.Evolves c₁ events₂ c₂)
    (hfresh : ∀ event ∈ events₁, ∀ i, event.actor = some i →
      (executions i).Vacant st event.before → (executions i).KeyFresh st event.before)
    (haccepts : ∀ i j, (executions i).scope = (executions j).scope →
      (executions i).AcceptsAlike (executions j)) :
    (∀ intentId a a', (st.run c₁.store).Consumes intentId a →
      (st.run c₂.store).Consumes intentId a' → a = a') ∧
    (∀ i commit replayed, c₁.progs i = .done (.ok (.started commit replayed)) → ∃ p,
      commit.attempt.retryProvenance = some p ∧
        (st.run c₁.store).Consumes p.retryIntentId commit.attempt.id) ∧
    ∀ i, (∀ result, c₁.progs i = .done result →
        (executions i).Settled st c₁.store (own i events₁) result ∧
        ((∀ t rest, own i events₁ = (t, t) :: rest → ¬ (executions i).Current st t) →
          (∃ error, result = .error error) ∧ Unchanged (own i events₁))) ∧
      ((∀ result, c₁.progs i ≠ .done result) → Unchanged (own i events₁)) ∧
      (∀ j answer, c₁.progs j = .done (.ok answer) → answer.replayed = false →
        (executions i).scope = (executions j).scope → own i events₁ = [] →
        ∀ result, c₂.progs i = .done result →
          ((executions i).SameContent (executions j) →
            (∀ t rest, own i events₂ = (t, t) :: rest → (executions i).Current st t) →
            result = .ok answer.again ∧ Unchanged (own i events₂)) ∧
          (¬ (executions i).SameContent (executions j) →
            (∃ error, result = .error error) ∧ Unchanged (own i events₂))) := by
  have henv : ∀ s s', st.Evolves s s' → st.Evolves s s' := fun _ _ h => h
  have hg := fun i => RetryExecution.program_guarantees hl hs (executions i)
  obtain ⟨hevolves, hg₁⟩ := h₁.related hg henv
  obtain ⟨hevolves₂, -⟩ := h₂.related hg₁ henv
  have hs₁ : st.Consistent c₁.store := hevolves.consistent hs
  have hsettled : ∀ i result, c₁.progs i = .done result →
      (executions i).Settled st c₁.store (own i events₁) result := by
    intro i result hdone
    have hthread := h₁.thread hg henv i
    rw [hdone] at hthread
    exact RetryExecution.settled hl hs hthread
  refine ⟨fun intentId a a' ha ha' => (hevolves₂.consumes ha).unique ha',
    fun i commit replayed hdone => (hsettled i _ hdone).consumes hs₁, fun i => ⟨?_, ?_, ?_⟩⟩
  · intro result hdone
    have hthread := h₁.thread hg henv i
    rw [hdone] at hthread
    exact ⟨hsettled i result hdone, fun hrefused => RetryExecution.refused hrefused hthread⟩
  · intro hrunning
    rcases (h₁.thread hg henv i).unchanged_or_done ((executions i).program_oneWrite hl) with
      hunchanged | ⟨result, hdone⟩
    · exact hunchanged
    · exact absurd hdone (hrunning result)
  · intro j answer hdone hfirst hscope hlater result hdone₂
    have hkey : ∀ w w', (w, w') ∈ own j events₁ → (executions j).Vacant st w →
        (executions j).KeyFresh st w := by
      intro w w' hmem hvacant
      obtain ⟨event, hevent, hactor, hsame⟩ := mem_own.mp hmem
      cases hsame
      exact hfresh event hevent j hactor hvacant
    obtain ⟨v, hstored, hv, rfl⟩ := (hsettled j _ hdone).original hfirst hkey
    rw [← hscope] at hstored
    -- the program has not begun in the first run, so the second one is all it does
    have hthread := h₁.thread hg henv i
    rw [hlater] at hthread
    have hthread₂ := h₂.thread hg₁ henv i
    rw [hthread.of_nil, hdone₂] at hthread₂
    refine ⟨fun hsame hcurrent => ?_, fun hother => ?_⟩
    · rw [StoredRetry.answer_again]
      exact RetryExecution.replays hl hs₁ hstored (RetryExecution.is_of_same hsame hv) hcurrent
        hthread₂
    · obtain ⟨herror | ⟨his, -⟩, hunchanged⟩ := RetryExecution.found hl hs₁ hstored hthread₂
      · exact ⟨herror, hunchanged⟩
      · exact absurd (RetryExecution.same_of_is his hv (haccepts i j hscope)) hother

namespace Run

/-- The digest of the platform's intent. -/
def platformDigest : Digest := platformIntent.digest.toOption.getD Digest.zero

theorem platformIntent_digest : platformIntent.digest = .ok platformDigest := by
  have hdigest : ∃ digest, platformIntent.digest = .ok digest := canonicalDigest_of_valid rfl
  obtain ⟨digest, hdigest⟩ := hdigest
  rw [platformDigest, hdigest]
  rfl

def restartedOffer : Assignment where
  id := "assignment-2"
  worker := sampleWorker
  specDigest := Digest.zero
  state := .committed
  offeredAt := ⟨5000000, some 0⟩
  expiresAt := ⟨9000000, some 0⟩
  claimedAt := some ⟨6000000, some 0⟩
  committedAt := some ⟨7000000, some 0⟩
  retryIntentId := some "intent-1"
  accepted := by decide

theorem restartedProvenance_accepted : RetryProvenance.Fields.postInit
    ⟨"intent-1", platformDigest, "attempt-1", 1, 1, .policy platformAuthority⟩ = .ok () := rfl

def restartedProvenance : RetryProvenance :=
  ⟨⟨"intent-1", platformDigest, "attempt-1", 1, 1, .policy platformAuthority⟩,
    restartedProvenance_accepted⟩

def restartedAttempt : Attempt where
  id := "attempt-2"
  runId := "run-1"
  attemptNo := 2
  fence := 2
  assignmentId := "assignment-2"
  worker := sampleWorker
  specDigest := Digest.zero
  startCommitKey := "commit-2"
  retryProvenance := some restartedProvenance
  events := []
  evidence := none
  unknownObservation := none
  adjudications := []
  state := .startCommitted
  version := 0
  accepted := rfl

def restartedFields : Fields :=
  { lostFields .running 11 (some "assignment-2") [platformIntent] with
    currentFence := 2
    assignments := [committedOffer, restartedOffer]
    attempts := [lostAttempt, restartedAttempt]
    pendingRetryIntentId := none }

theorem restarted_chain : restartedFields.validateRetryChain restartedAttempt restartedOffer
    (some lostAttempt) = .ok () := by
  simp only [Fields.validateRetryChain, bind_eq_ok, exists_unit, need_eq_ok, raiseIf_eq_ok]
  exact ⟨restartedProvenance, rfl, platformIntent, rfl, lostAttempt, rfl, by decide, _,
    platformIntent_digest, by simp [restartedProvenance]; decide⟩

theorem restarted_attempts :
    restartedFields.validateAttempts 1 none [lostAttempt, restartedAttempt] = .ok () := by
  have hsecond :
      restartedFields.validateAttempt 2 (some lostAttempt) restartedAttempt = .ok () := by
    simp only [Fields.validateAttempt, bind_eq_ok, exists_unit, need_eq_ok]
    exact ⟨rfl, rfl, rfl, restartedOffer, rfl, rfl, rfl, restarted_chain⟩
  simp only [Fields.validateAttempts, then_eq_ok]
  exact ⟨rfl, hsecond, trivial⟩

theorem restarted_history : restartedFields.validateNormalizedHistory = .ok () := by
  have hattempts : restartedFields.attempts = [lostAttempt, restartedAttempt] := rfl
  simp only [Fields.validateNormalizedHistory, then_eq_ok, hattempts, restarted_attempts]
  exact ⟨rfl, rfl, rfl, rfl, rfl, rfl, trivial, rfl, rfl, rfl, rfl, rfl⟩

theorem restarted_snapshots :
    each [lostAttempt, restartedAttempt] Fields.validateEvidenceSnapshot = .ok () := by
  simp only [each, lostAttempt_ok]
  rfl

/-- The Run that started the retry. -/
def restartedRun : Run where
  toFields := restartedFields
  accepted := by
    simp only [Fields.postInit, Fields.validateStatePointers, then_eq_ok]
    exact ⟨rfl, rfl, rfl, rfl, rfl, restarted_history, rfl, rfl,
      ⟨rfl, restarted_snapshots, rfl, rfl, rfl⟩, rfl, rfl⟩

def platformBudget : RetryBudgetReservation where
  retryIntentDigest := platformDigest
  decisionDigest := Digest.zero
  configured := ⟨⟨2, 3600, 3600⟩, by decide⟩
  usage := ⟨⟨0, 0, 0⟩, by decide⟩
  requested := ⟨⟨60, 60⟩, by decide⟩

theorem platformReceipt_accepted : RetryQueueReceipt.Fields.postInit
    ⟨platformIntent, some platformBudget, none, Digest.zero, ("retry", "queue-1"), 8, Digest.zero,
      1⟩ = .ok () := by
  have hauthority : RetryQueueReceipt.Fields.validateAuthority ⟨platformIntent,
      some platformBudget, none, Digest.zero, ("retry", "queue-1"), 8, Digest.zero, 1⟩ =
      .ok () := by
    have hpolicy : platformIntent.authority = .policy platformAuthority := rfl
    simp only [RetryQueueReceipt.Fields.validateAuthority, hpolicy, need_eq_ok, bind_eq_ok,
      exists_unit, Raises.port_eq_ok, Raises.domain_eq_ok, Port.invalidIf_eq_ok]
    exact ⟨platformBudget, rfl, by decide, platformDigest, platformIntent_digest, not_not_intro rfl,
      not_not_intro rfl⟩
  rw [RetryQueueReceipt.Fields.postInit, hauthority]
  rfl

/-- The receipt of the queued retry. -/
def platformReceipt : RetryQueueReceipt := ⟨_, platformReceipt_accepted⟩

def receiptDigest : Digest := platformReceipt.digest.toOption.getD Digest.zero

theorem platformReceipt_digest : platformReceipt.digest = .ok receiptDigest := by
  have hintent : platformReceipt.intent.digest = .ok platformDigest := platformIntent_digest
  have hnone : platformReceipt.duplicateAcceptanceConsumption = none := rfl
  have hdigest : ∃ digest, platformReceipt.digest = .ok digest := by
    simp only [RetryQueueReceipt.digest, hintent, hnone, ok_bind, pure_bind]
    exact canonicalDigest_of_valid rfl
  obtain ⟨digest, hdigest⟩ := hdigest
  rw [receiptDigest, hdigest]
  rfl

def firstScope : RunRetryIdentityScope := ("retry", "start-0")

def startScope : RunRetryIdentityScope := ("retry", "start-1")

/-- A start of the queued retry, as the Attempt of the given id. -/
def startCommand (attemptId : Str) (h : attemptId ≠ "") : CommitRetryStartCommand where
  identityScope := startScope
  receipt := platformReceipt
  assignmentId := "assignment-2"
  worker := sampleWorker
  startCommitKey := "commit-2"
  specDigest := Digest.zero
  newAttemptId := attemptId
  observedAt := ⟨7000000, some 0⟩
  expectedRunVersion := 11
  expectedAttemptVersion := 3
  accepted := by
    simp only [CommitRetryStartCommand.Fields.postInit, each, then_eq_ok, invalidIf_eq_ok]
    exact ⟨by decide, ⟨by decide, by decide, h, trivial⟩, by decide, by decide, trivial⟩

def platformWriter : RunRetryWriteAuthority where
  runId := "run-1"
  writerDigest := Digest.zero
  policyDigest := Digest.zero
  authoritySchema := "qep.platform-retry-authority.v1"
  authorityId := "authority-1"
  authorityVersion := 1
  authorityDigest := Digest.zero
  writeEpoch := 1
  accepted := by decide

/-- The start of the queued retry, as it was stored first. -/
def firstStart : StoredRetryCommit := ⟨⟨restartedRun, restartedAttempt, 2, false⟩, receiptDigest⟩

/-- The queued retry was started under one scope. -/
def restartedStore : InMemoryRetry where
  run := restartedRun
  attemptVersion := 3
  binding := ⟨⟨Digest.zero, "sut-1", Digest.zero, "grant-1", 1, Digest.zero⟩, by decide⟩
  authority := some platformWriter
  unknownAuthority := none
  results _ := none
  queueReceipts := [platformReceipt]
  acceptanceConsumptions _ := none
  commits := Function.update (fun _ => none) firstScope (some firstStart)

theorem restartedStore_consistent : inMemoryRetry.Consistent restartedStore where
  queued _ _ h := by cases h
  started scope v h := by
    have hcommits : restartedStore.commits scope = some v := Except.ok.inj h
    simp only [restartedStore, Function.update_apply] at hcommits
    split at hcommits
    · cases hcommits
      have hreceipted : inMemoryRetry.Receipted platformDigest platformReceipt restartedStore := by
        have hintent : platformReceipt.intent.digest = .ok platformDigest := platformIntent_digest
        exact InMemoryRetry.receipted_iff.mpr (List.find?_cons_of_pos (by simp [hintent]))
      exact ⟨restartedProvenance, platformReceipt, rfl,
        consumes_of_mem (List.mem_pair.mpr (Or.inr rfl)) rfl, hreceipted,
        platformReceipt_digest⟩
    · cases hcommits

theorem restartedStore_vacant : restartedStore.commits startScope = none := by
  have hne : startScope ≠ firstScope := by decide
  simp only [restartedStore, Function.update_of_ne hne]

variable {attemptId : Str} {h : attemptId ≠ ""} {t : InMemoryRetry}

theorem start_authorized (ht : t.authority = some platformWriter) :
    CommitRetryStart.authorized inMemoryRetry.committing (startCommand attemptId h) t =
      .ok (.policy platformWriter) := by
  refine bind_eq_ok.mpr ⟨.policy platformWriter, ?_, ?_⟩
  · show InMemoryRetry.requireCurrentAuthority platformReceipt t = _
    have hpolicy : platformReceipt.intent.authority = .policy platformAuthority := rfl
    simp only [InMemoryRetry.requireCurrentAuthority, hpolicy, InMemoryRetry.supersededIf, ht]
    rfl
  · have hmatched : authorityMatches (.policy platformWriter) platformReceipt = .ok true := by
      decide
    exact then_eq_ok.mpr ⟨CommitRetryStart.requireCurrent_eq_ok.mpr hmatched, rfl⟩

theorem start_received (ht : t.queueReceipts = [platformReceipt]) :
    CommitRetryStart.received inMemoryRetry.committing (startCommand attemptId h) platformDigest t =
      .ok platformReceipt := by
  refine CommitRetryStart.received_eq_ok.mpr ⟨?_, _, platformReceipt_digest,
    platformReceipt_digest⟩
  refine InMemoryRetry.receipted_iff.mpr ?_
  have hintent : platformReceipt.intent.digest = .ok platformDigest := platformIntent_digest
  rw [ht, List.find?_cons_of_pos (by simp [hintent])]

def restartedSnapshot : RetryCommitMutationSnapshot := ⟨⟨restartedRun, 3⟩, by decide⟩

/-- The start that is answered with the Attempt that is there under the key. -/
def restarted : CommitStartResult := ⟨restartedRun, restartedAttempt, 2, true⟩

theorem restarted_ok : restartedRun.commitStart "assignment-2" sampleWorker "commit-2" Digest.zero
    attemptId ⟨7000000, some 0⟩ 11 = .ok restarted := by
  have hdigest : ∃ digest, startCommitDigest "assignment-2" sampleWorker Digest.zero = .ok digest :=
    canonicalDigest_of_valid rfl
  obtain ⟨digest, hdigest⟩ := hdigest
  have hkey : restartedRun.attemptByKey "commit-2" = some restartedAttempt := rfl
  simp only [commitStart, hdigest, ok_bind, hkey]
  refine replayCommit_eq_ok.mpr ⟨hdigest, rfl, rfl, ⟨restartedOffer, rfl, rfl, rfl⟩, rfl, by decide,
    rfl⟩

theorem restartEffect_accepted : RetryCommitSideEffect.Fields.postInit
    ⟨"run-1", platformDigest, "attempt-2"⟩ = .ok () := rfl

/-- What a start prepares then. -/
def restartFields : RetryCommitPublication.Fields where
  identityScope := startScope
  authority := .policy platformWriter
  expectedSnapshot := restartedSnapshot
  receipt := platformReceipt
  commit := restarted
  sideEffect := ⟨_, restartEffect_accepted⟩

theorem restartFields_accepted : restartFields.postInit = .ok () := by
  have hintent : platformReceipt.intent.digest = .ok platformDigest := platformIntent_digest
  have hprovenance : restarted.attempt.retryProvenance = some restartedProvenance := rfl
  have hmismatch : restartFields.bindingMismatch = .ok false := by
    simp only [RetryCommitPublication.Fields.bindingMismatch, anyOf_eq_ok_false,
      List.forall_mem_cons, restartFields, hprovenance, hintent, differs_eq_ok_false]
    exact ⟨by decide, rfl, congrArg Except.ok (decide_eq_false (not_not_intro rfl)),
      List.forall_mem_nil _⟩
  rw [RetryCommitPublication.Fields.postInit, hmismatch]
  rfl

def restartPublication : RetryCommitPublication := ⟨restartFields, restartFields_accepted⟩

theorem start_prepared : CommitRetryStart.prepare (startCommand attemptId h)
    (.policy platformWriter) platformReceipt restartedSnapshot = .ok restartPublication := by
  simp only [CommitRetryStart.prepare, bind_eq_ok, exists_unit, requireSnapshotVersions_eq_ok,
    Raises.domain_eq_ok, Raises.port_eq_ok, RetryCommitSideEffect.new, RetryCommitPublication.new,
    construct_eq_ok]
  exact ⟨⟨rfl, rfl⟩, restarted, restarted_ok, platformDigest, platformIntent_digest, _,
    ⟨restartEffect_accepted, rfl⟩, restartFields_accepted, rfl⟩

/-- What is kept once it is published. -/
def startedStore : InMemoryRetry :=
  { restartedStore with
    commits := Function.update restartedStore.commits startScope
      (some ⟨restarted, receiptDigest⟩) }

theorem startedStore_commits :
    startedStore.commits startScope = some ⟨restarted, receiptDigest⟩ := by
  simp only [startedStore, Function.update_self]

theorem restart_published : InMemoryRetry.publish restartPublication restartedStore =
    .ok (⟨restarted, false⟩, startedStore) := by
  have hnone : restartedStore.commits restartPublication.identityScope = none :=
    restartedStore_vacant
  simp only [InMemoryRetry.publish, hnone, bind_eq_ok, exists_unit, Raises.conflictIf_eq_ok,
    Raises.refuseIf_eq_ok, Raises.domain_eq_ok]
  exact ⟨not_not_intro rfl, not_not_intro rfl, receiptDigest, platformReceipt_digest, rfl⟩

theorem restart_repeated : InMemoryRetry.publish restartPublication startedStore =
    .ok (⟨restarted, true⟩, startedStore) := by
  have hsome : startedStore.commits restartPublication.identityScope =
    some ⟨restarted, receiptDigest⟩ := startedStore_commits
  simp only [InMemoryRetry.publish, hsome, InMemoryRetry.replayCommit, bind_eq_ok, exists_unit,
    need_eq_ok, Raises.domain_eq_ok, Raises.refuseIf_eq_ok]
  exact ⟨⟨restartedProvenance, rfl, platformDigest, platformIntent_digest, not_not_intro rfl⟩, rfl⟩

/-- The program that has read everything. -/
def publishing : Prog InMemoryRetry Raised RetryAnswer :=
  Prog.call (InMemoryRetry.publish restartPublication) >>= fun r =>
    pure (.started r.value r.replayed)

/-- A start reads the authority, the receipt, its scope and the Run before it publishes. -/
theorem start_loaded {env : InMemoryRetry → InMemoryRetry → Prop} {i : ℕ}
    {progs : ℕ → Prog InMemoryRetry Raised RetryAnswer}
    (hi : progs i = (RetryExecution.commitRetryStart (startCommand attemptId h)).program
      inMemoryRetry) : Interleaving.Run env ⟨restartedStore, progs⟩
      (List.replicate 4 ⟨some i, restartedStore, restartedStore⟩)
      ⟨restartedStore, Function.update progs i publishing⟩ := by
  let handler := CommitRetryStart.handler inMemoryRetry.committing (startCommand attemptId h)
  let answered (r : CommitRetryStartResult) : Prog InMemoryRetry Raised RetryAnswer :=
    pure (.started r.commit r.replayed)
  have hprogram : progs i = Prog.read (CommitRetryStart.authorized inMemoryRetry.committing
      (startCommand attemptId h)) >>= fun authority =>
        Prog.lift (Raises.domain platformIntent.digest) >>= fun d =>
          Prog.read (CommitRetryStart.received inMemoryRetry.committing
            (startCommand attemptId h) d) >>= fun canonical =>
              handler.authorized (authority, canonical) >>= answered := by
    rw [hi, RetryExecution.program, CommitRetryStart.execute, Handler.execute,
      CommitRetryStart.require_eq]
    simp only [Prog.bind_assoc]
    rfl
  rw [platformIntent_digest] at hprogram
  refine .of_read hprogram (start_authorized rfl) ?_
  refine .of_read (i := i) (Function.update_self ..) (start_received rfl) ?_
  rw [Function.update_idem]
  have hlast : Interleaving.Run env ⟨restartedStore, Function.update progs i
      (handler.authorized (.policy platformWriter, platformReceipt) >>= answered)⟩
      (List.replicate 2 ⟨some i, restartedStore, restartedStore⟩) _ :=
    Handler.run_authorized (i := i) (Function.update_self ..) rfl
      (congrArg Except.ok restartedStore_vacant)
      (rfl : handler.lock _ restartedStore = .ok restartedSnapshot) start_prepared
  rw [Function.update_idem] at hlast
  exact hlast

theorem start_content (attemptId : Str) (h : attemptId ≠ "") :
    (RetryExecution.commitRetryStart (startCommand attemptId h)).content =
      .ok (.start receiptDigest platformDigest attemptId "assignment-2" sampleWorker "commit-2"
        Digest.zero) :=
  bind_eq_ok.mpr ⟨receiptDigest, platformReceipt_digest, bind_eq_ok.mpr
    ⟨platformDigest, platformIntent_digest, rfl⟩⟩

/-- Two starts that name the Attempt that is there, one that comes later, and one that names
another Attempt under the same scope. -/
def starts : ℕ → RetryExecution
  | 3 => .commitRetryStart (startCommand "attempt-3" (by decide))
  | _ => .commitRetryStart (startCommand "attempt-2" (by decide))

theorem starts_fresh {i : ℕ} (hi : i ≠ 3) (ht : t.run = restartedRun) :
    (starts i).KeyFresh inMemoryRetry t := by
  have hstart : starts i = .commitRetryStart (startCommand "attempt-2" (by decide)) := by
    unfold starts
    split
    · exact absurd rfl hi
    · rfl
  rw [hstart]
  show ∀ a ∈ t.run.attempts, _ → _
  rw [ht]
  intro a ha hkey
  rcases List.mem_pair.mp ha with rfl | rfl
  · exact absurd hkey (by decide)
  · exact ⟨rfl, rfl, rfl, rfl, rfl⟩

theorem starts_accept (i j : ℕ) : (starts i).AcceptsAlike (starts j) := by
  have hstart : ∃ command, starts i = .commitRetryStart command := by
    unfold starts
    split <;> exact ⟨_, rfl⟩
  obtain ⟨command, hstart⟩ := hstart
  intro d intent request request' hcontent
  rw [hstart] at hcontent
  simp only [RetryExecution.content, bind_eq_ok, pure_eq_ok] at hcontent
  obtain ⟨_, -, _, -, hcontent⟩ := hcontent
  cases hcontent

/-- Both starts have read everything before either of them publishes. -/
def raceEvents : List (Event ℕ InMemoryRetry) :=
  List.replicate 4 ⟨some 0, restartedStore, restartedStore⟩ ++
    List.replicate 4 ⟨some 1, restartedStore, restartedStore⟩ ++
    [⟨some 0, restartedStore, startedStore⟩,
      ⟨some 1, startedStore, startedStore⟩]

theorem race_fresh : ∀ event ∈ raceEvents, ∀ i, event.actor = some i →
    (starts i).Vacant inMemoryRetry event.before →
    (starts i).KeyFresh inMemoryRetry event.before := by
  intro event hevent i hactor _
  simp only [raceEvents, List.mem_append, List.mem_replicate, List.mem_cons, List.not_mem_nil,
    or_false] at hevent
  rcases hevent with (⟨-, rfl⟩ | ⟨-, rfl⟩) | rfl | rfl <;> cases hactor <;>
    exact starts_fresh (by decide) rfl

theorem race (env : InMemoryRetry → InMemoryRetry → Prop) :
    ∃ c : Config ℕ InMemoryRetry Raised RetryAnswer,
      Interleaving.Run env ⟨restartedStore, fun i => (starts i).program inMemoryRetry⟩
        raceEvents c ∧ c.store = startedStore ∧
      c.progs 0 = .done (.ok (.started restarted false)) ∧
      c.progs 1 = .done (.ok (.started restarted true)) ∧
      c.progs 2 = (starts 2).program inMemoryRetry ∧
      c.progs 3 = (starts 3).program inMemoryRetry := by
  let first := Function.update (fun i => (starts i).program inMemoryRetry) 0 publishing
  let loaded := Function.update first 1 publishing
  let stored := Function.update loaded 0 (.done (.ok (.started restarted false)))
  have hfirst : Interleaving.Run env ⟨restartedStore, fun i => (starts i).program inMemoryRetry⟩ _
    ⟨restartedStore, first⟩ := start_loaded (i := 0) rfl
  have hsecond : Interleaving.Run env ⟨restartedStore, first⟩ _ ⟨restartedStore, loaded⟩ :=
    start_loaded (i := 1) rfl
  have hrepeated : Interleaving.Run env ⟨startedStore, stored⟩
      [⟨some 1, startedStore, startedStore⟩] ⟨startedStore,
        Function.update stored 1 (.done (.ok (.started restarted true)))⟩ :=
    .of_call (i := 1) (f := fun r => pure (.started r.value r.replayed)) rfl
      restart_repeated (.refl _)
  have hpublished : Interleaving.Run env ⟨restartedStore, loaded⟩ _ _ :=
    .of_call (i := 0) (f := fun r => pure (.started r.value r.replayed)) rfl restart_published
      hrepeated
  exact ⟨_, (hfirst.append hsecond).append hpublished, rfl, rfl, rfl, rfl, rfl⟩

end Run

/-- Two starts race for one scope: the first to publish stores its Attempt, the other answers with
it. A third that comes later answers with it as well, and one that names another Attempt is
refused. -/
theorem retry_handoff_safe_raced : ∃ (c₁ c₂ c₃ : Config ℕ InMemoryRetry Raised RetryAnswer)
    (events₂ events₃ : List (Event ℕ InMemoryRetry)),
    Interleaving.Run inMemoryRetry.Evolves
      ⟨Run.restartedStore, fun i => (Run.starts i).program inMemoryRetry⟩ Run.raceEvents c₁ ∧
    Interleaving.Run inMemoryRetry.Evolves c₁ events₂ c₂ ∧
    Interleaving.Run inMemoryRetry.Evolves c₁ events₃ c₃ ∧
    c₁.progs 0 = .done (.ok (.started Run.restarted false)) ∧
    c₁.progs 1 = .done (.ok (.started Run.restarted true)) ∧
    (∃ p, Run.restarted.attempt.retryProvenance = some p ∧
      c₁.store.run.Consumes p.retryIntentId "attempt-2") ∧
    c₂.progs 2 = .done (.ok (.started Run.restarted true)) ∧ Unchanged (own 2 events₂) ∧
    (∃ error, c₃.progs 3 = .done (.error error)) ∧ Unchanged (own 3 events₃) := by
  obtain ⟨c₁, h₁, hstore, hfirst, hsecond, hthird, hfourth⟩ := Run.race inMemoryRetry.Evolves
  obtain ⟨events₂, c₂, result₂, h₂, hdone₂, hactor₂⟩ := Run.exists_end (c := c₁) (i := 2)
    inMemoryRetry.Evolves (hthird ▸ (Run.starts 2).program_within inMemoryRetry)
  obtain ⟨events₃, c₃, result₃, h₃, hdone₃, -⟩ := Run.exists_end (c := c₁) (i := 3)
    inMemoryRetry.Evolves (hfourth ▸ (Run.starts 3).program_within inMemoryRetry)
  have haccepts := fun i j (_ : (Run.starts i).scope = (Run.starts j).scope) =>
    Run.starts_accept i j
  obtain ⟨-, hconsumes, hall⟩ := retry_handoff_safe InMemoryRetry.lawful
    Run.restartedStore_consistent h₁ h₂ Run.race_fresh haccepts
  obtain ⟨-, -, hall₃⟩ := retry_handoff_safe InMemoryRetry.lawful Run.restartedStore_consistent h₁
    h₃ Run.race_fresh haccepts
  have hcurrent : ∀ t rest, own 2 events₂ = (t, t) :: rest →
      (Run.starts 2).Current inMemoryRetry t := by
    intro t rest hown
    have ht : t = c₁.store := h₂.own_head hactor₂ hown
    rw [ht, hstore]
    exact ⟨_, Run.start_authorized rfl⟩
  have hcontent := Run.start_content "attempt-2" (by decide)
  have hother : ¬ (Run.starts 3).SameContent (Run.starts 0) := by
    rintro ⟨content, hthree, hzero⟩
    have hcontent₃ := Run.start_content "attempt-3" (by decide)
    cases hzero.symm.trans hcontent
    have hid := (RetryContent.start.inj (Except.ok.inj (hthree.symm.trans hcontent₃))).2.2.1
    exact absurd hid (by decide)
  obtain ⟨rfl, hunchanged₂⟩ :=
    ((hall 2).2.2 0 _ hfirst rfl rfl rfl result₂ hdone₂).1
      ⟨_, hcontent, hcontent⟩ hcurrent
  obtain ⟨⟨error, rfl⟩, hunchanged₃⟩ :=
    ((hall₃ 3).2.2 0 _ hfirst rfl rfl rfl result₃ hdone₃).2 hother
  exact ⟨c₁, c₂, c₃, events₂, events₃, h₁, h₂, h₃, hfirst, hsecond,
    hconsumes 0 _ _ hfirst, hdone₂, hunchanged₂, ⟨error, hdone₃⟩, hunchanged₃⟩

/-- A start under a new scope, with the key of an Attempt that another id names, is answered with
that Attempt. The very same command is refused when it comes again, under the same authority. -/
theorem start_replay_refused : ∃ (command : CommitRetryStartCommand)
    (c₁ c₂ : Config ℕ InMemoryRetry Raised RetryAnswer)
    (events₁ events₂ : List (Event ℕ InMemoryRetry)),
    inMemoryRetry.Consistent Run.restartedStore ∧
    Interleaving.Run inMemoryRetry.Evolves
      ⟨Run.restartedStore, fun _ => (RetryExecution.commitRetryStart command).program
        inMemoryRetry⟩ events₁ c₁ ∧
    Interleaving.Run inMemoryRetry.Evolves c₁ events₂ c₂ ∧
    c₁.progs 0 = .done (.ok (.started Run.restarted false)) ∧ own 1 events₁ = [] ∧
    (∀ t rest, own 1 events₂ = (t, t) :: rest →
      (RetryExecution.commitRetryStart command).Current inMemoryRetry t) ∧
    ∃ error, c₂.progs 1 = .done (.error error) := by
  let execution := RetryExecution.commitRetryStart (Run.startCommand "attempt-3" (by decide))
  let loaded := Function.update (fun _ => execution.program inMemoryRetry) 0 Run.publishing
  let c₁ : Config ℕ InMemoryRetry Raised RetryAnswer := ⟨Run.startedStore,
    Function.update loaded 0 (.done (.ok (.started Run.restarted false)))⟩
  have hloaded : Interleaving.Run inMemoryRetry.Evolves
      ⟨Run.restartedStore, fun _ => execution.program inMemoryRetry⟩ _
      ⟨Run.restartedStore, loaded⟩ := Run.start_loaded (i := 0) rfl
  have hpublished : Interleaving.Run inMemoryRetry.Evolves ⟨Run.restartedStore, loaded⟩
      [⟨some 0, Run.restartedStore, Run.startedStore⟩] c₁ :=
    .of_call (i := 0) (f := fun r => pure (.started r.value r.replayed)) rfl
      Run.restart_published (.refl _)
  have hprogram : c₁.progs 1 = execution.program inMemoryRetry := rfl
  obtain ⟨events₂, c₂, result, h₂, hdone, hactor⟩ := Run.exists_end (c := c₁) (i := 1)
    inMemoryRetry.Evolves (hprogram ▸ execution.program_within inMemoryRetry)
  have h₁ := hloaded.append hpublished
  refine ⟨_, c₁, c₂, _, events₂, Run.restartedStore_consistent, h₁, h₂, rfl, rfl, ?_, ?_⟩
  · intro t rest hown
    have ht : t = c₁.store := h₂.own_head hactor hown
    rw [ht]
    exact ⟨_, Run.start_authorized rfl⟩
  · obtain ⟨hevolves, hg⟩ := h₁.related (fun _ => execution.program_guarantees
      InMemoryRetry.lawful Run.restartedStore_consistent) fun _ _ h => h
    have hthread := h₂.thread hg (fun _ _ h => h) 1
    rw [hprogram, hdone] at hthread
    have hstored : inMemoryRetry.Stored execution.scope
        (.started ⟨Run.restarted, Run.receiptDigest⟩) c₁.store :=
      congrArg Except.ok Run.startedStore_commits
    obtain ⟨⟨error, rfl⟩ | ⟨his, -⟩, -⟩ := RetryExecution.found InMemoryRetry.lawful
      (hevolves.consistent Run.restartedStore_consistent) hstored hthread
    · exact ⟨error, hdone⟩
    · have hid : ("attempt-2" : Str) = "attempt-3" :=
        (RetryExecution.is_commitRetryStart.mp his).names.id
      exact absurd hid (by decide)

end QaRunner
