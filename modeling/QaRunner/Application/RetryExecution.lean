import QaRunner.Application.RetryStart

/-! One call of a retry handler: what it asks for, how it ends, and what it changes. -/
namespace QaRunner
open Guarded Interleaving PublishOnce Aggregate

/-- One call of a retry handler. -/
inductive RetryExecution where
  | queuePolicyRetry (command : QueuePolicyRetryCommand)
  | queueAdjudicatedRetry (command : QueueAdjudicatedRetryCommand)
  | commitRetryStart (command : CommitRetryStartCommand)

/-- What a retry handler answers. -/
inductive RetryAnswer where
  | queued (projection : RunRetryProjection) (receipt : Option RetryQueueReceipt) (replayed : Bool)
  | started (commit : CommitStartResult) (replayed : Bool)

namespace RetryAnswer

def replayed : RetryAnswer → Bool
  | queued _ _ replayed => replayed
  | started _ replayed => replayed

/-- The same answer, given again. -/
def again : RetryAnswer → RetryAnswer
  | queued projection receipt _ => queued projection receipt true
  | started commit _ => started commit true

end RetryAnswer

/-- What is stored under an identity scope. -/
inductive StoredRetry where
  | queued (result : RetryQueuePublicationResult)
  | started (commit : StoredRetryCommit)

def StoredRetry.answer (replayed : Bool) : StoredRetry → RetryAnswer
  | queued v => .queued v.projection v.receipt replayed
  | started v => .started v.commit replayed

theorem StoredRetry.answer_replayed (v : StoredRetry) (b : Bool) : (v.answer b).replayed = b := by
  cases v <;> rfl

theorem StoredRetry.answer_again (v : StoredRetry) (b : Bool) :
    (v.answer b).again = v.answer true := by
  cases v <;> rfl

/-- What a command asks for. -/
inductive RetryContent where
  | queue (decisionDigest : Digest) (intentDigest : Option Digest)
    (acceptanceRequest : Option DuplicateRiskAcceptanceRequest)
  | start (receiptDigest retryIntentDigest : Digest) (attemptId assignmentId : Str)
    (worker : WorkerRef) (startCommitKey : Str) (specDigest : Digest)
  deriving DecidableEq

/-- What is stored is what was asked for. -/
def RetryContent.Matches : RetryContent → StoredRetry → Prop
  | queue decisionDigest intentDigest _, .queued v => v.Carries decisionDigest intentDigest
  | start receiptDigest intentDigest attemptId assignmentId worker startCommitKey specDigest,
      .started v => v.receiptDigest = receiptDigest ∧
        (∃ p, v.commit.attempt.retryProvenance = some p ∧ p.retryIntentDigest = intentDigest) ∧
        v.commit.attempt.id = attemptId ∧ v.commit.attempt.assignmentId = assignmentId ∧
        v.commit.attempt.worker = worker ∧ v.commit.attempt.startCommitKey = startCommitKey ∧
        v.commit.attempt.specDigest = specDigest
  | _, _ => False

/-- The scopes of queued retries and of their starts are apart. -/
abbrev RetryScopeKey := RunRetryIdentityScope ⊕ RunRetryIdentityScope

/-- What is stored under a scope. -/
def RetryStore.Stored {σ : Type} (st : RetryStore σ) (scope : RetryScopeKey) (v : StoredRetry)
    (s : σ) : Prop :=
  match scope, v with
  | .inl scope, .queued v => st.Queued scope v s
  | .inr scope, .started v => st.Committed scope v s
  | _, _ => False

namespace RetryExecution

def scope : RetryExecution → RetryScopeKey
  | queuePolicyRetry command => .inl command.identityScope
  | queueAdjudicatedRetry command => .inl command.identityScope
  | commitRetryStart command => .inr command.identityScope

def content : RetryExecution → Result RetryContent
  | queuePolicyRetry command => do
    let decisionDigest ← command.decision.decisionDigest
    return .queue decisionDigest command.decision.retryIntentDigest none
  | queueAdjudicatedRetry command => do
    let decisionDigest ← need command.candidateIntent.adjudicationDigest (.crash .attributeError)
    let intentDigest ← command.candidateIntent.digest
    return .queue decisionDigest (some intentDigest) command.acceptanceRequest
  | commitRetryStart command => do
    let receiptDigest ← command.receipt.digest
    let intentDigest ← command.receipt.intent.digest
    return .start receiptDigest intentDigest command.newAttemptId command.assignmentId
      command.worker command.startCommitKey command.specDigest

def SameContent (e e' : RetryExecution) : Prop :=
  ∃ content, e.content = .ok content ∧ e'.content = .ok content

/-- Two commands that queue the same decision and intent carry the same acceptance. -/
def AcceptsAlike (e e' : RetryExecution) : Prop :=
  ∀ d i request request', e.content = .ok (.queue d i request) →
    e'.content = .ok (.queue d i request') → request = request'

/-- What is stored is what the command asks for. -/
def Is (e : RetryExecution) (v : StoredRetry) : Prop :=
  ∃ content, e.content = .ok content ∧ content.Matches v

/-- What is stored is about the intent of the command. -/
def Concerns (e : RetryExecution) (v : StoredRetry) : Prop :=
  match e, v with
  | commitRetryStart command, .started v => command.Consumed v.commit
  | e, v => e.Is v

variable {σ : Type} {st : RetryStore σ} {e e' : RetryExecution} {s s' : σ} {v : StoredRetry}
  {steps : List (σ × σ)} {result : Raises RetryAnswer}

/-- Nothing is stored yet under the scope of the command. -/
def Vacant (st : RetryStore σ) (e : RetryExecution) (s : σ) : Prop := ∀ v, ¬ st.Stored e.scope v s

/-- The start key of a command is free, or its own Attempt has it. -/
def KeyFresh (st : RetryStore σ) (e : RetryExecution) (s : σ) : Prop :=
  match e with
  | commitRetryStart command => command.KeyFresh (st.run s)
  | _ => True

/-- The handler is granted the authority that the command was made under. -/
def Current (st : RetryStore σ) (e : RetryExecution) (s : σ) : Prop :=
  match e with
  | queuePolicyRetry command =>
    ∃ a, QueuePolicyRetry.authorized st.queueing command s = .ok a
  | queueAdjudicatedRetry command =>
    ∃ a, QueueAdjudicatedRetry.authorized st.queueing command s = .ok a
  | commitRetryStart command =>
    ∃ a, CommitRetryStart.authorized st.committing command s = .ok a

def program (st : RetryStore σ) : RetryExecution → Prog σ Raised RetryAnswer
  | queuePolicyRetry command => QueuePolicyRetry.execute st.queueing command >>= fun r =>
      pure (.queued r.projection r.receipt r.replayed)
  | queueAdjudicatedRetry command => QueueAdjudicatedRetry.execute st.queueing command >>= fun r =>
      pure (.queued r.projection r.receipt r.replayed)
  | commitRetryStart command => CommitRetryStart.execute st.committing command >>= fun r =>
      pure (.started r.commit r.replayed)

theorem is_queuePolicyRetry {command : QueuePolicyRetryCommand} {v : RetryQueuePublicationResult} :
    (queuePolicyRetry command).Is (.queued v) ↔ ∃ d i, command.Content d i ∧ v.Carries d i := by
  simp only [Is, content, bind_eq_ok, pure_eq_ok]
  constructor
  · rintro ⟨_, ⟨d, hd, rfl⟩, hcarries⟩
    exact ⟨d, _, ⟨hd, rfl⟩, hcarries⟩
  · rintro ⟨d, _, ⟨hd, rfl⟩, hcarries⟩
    exact ⟨_, ⟨d, hd, rfl⟩, hcarries⟩

theorem is_queueAdjudicatedRetry {command : QueueAdjudicatedRetryCommand}
    {v : RetryQueuePublicationResult} :
    (queueAdjudicatedRetry command).Is (.queued v) ↔
      ∃ d i, command.Content d i ∧ v.Carries d i := by
  simp only [Is, content, bind_eq_ok, need_eq_ok, pure_eq_ok]
  constructor
  · rintro ⟨_, ⟨d, hd, x, hx, rfl⟩, hcarries⟩
    exact ⟨d, _, ⟨hd, x, hx, rfl⟩, hcarries⟩
  · rintro ⟨d, _, ⟨hd, x, hx, rfl⟩, hcarries⟩
    exact ⟨_, ⟨d, hd, x, hx, rfl⟩, hcarries⟩

theorem is_commitRetryStart {command : CommitRetryStartCommand} {v : StoredRetryCommit} :
    (commitRetryStart command).Is (.started v) ↔ command.Content v := by
  simp only [Is, content, bind_eq_ok, pure_eq_ok]
  constructor
  · rintro ⟨_, ⟨r, hr, x, hx, rfl⟩, rfl, ⟨p, hp, rfl⟩, hid, hassignment, hworker, hkey, hspec⟩
    exact ⟨hr, ⟨p, hp, hx⟩, hid, hassignment, hworker, hkey, hspec⟩
  · rintro ⟨hr, ⟨p, hp, hx⟩, hid, hassignment, hworker, hkey, hspec⟩
    exact ⟨_, ⟨_, hr, _, hx, rfl⟩, rfl, ⟨p, hp, rfl⟩, hid, hassignment, hworker, hkey, hspec⟩

theorem is_of_same (h : e.SameContent e') (hv : e'.Is v) : e.Is v := by
  obtain ⟨content, he, he'⟩ := h
  obtain ⟨content', hcontent, hmatches⟩ := hv
  cases he'.symm.trans hcontent
  exact ⟨content, he, hmatches⟩

/-- What one stored result is of is one content, but for the acceptance. -/
theorem same_of_is (hv : e.Is v) (hv' : e'.Is v) (haccepts : e.AcceptsAlike e') :
    e.SameContent e' := by
  obtain ⟨content, he, hmatches⟩ := hv
  obtain ⟨content', he', hmatches'⟩ := hv'
  cases v with
  | queued v =>
    cases content with
    | start => exact hmatches.elim
    | queue d i request =>
      cases content' with
      | start => exact hmatches'.elim
      | queue d' i' request' =>
        obtain ⟨rfl, rfl⟩ := hmatches.unique hmatches'
        obtain rfl := haccepts _ _ _ _ he he'
        exact ⟨_, he, he'⟩
  | started v =>
    cases content with
    | queue => exact hmatches.elim
    | start =>
      cases content' with
      | queue => exact hmatches'.elim
      | start =>
        obtain ⟨rfl, ⟨p, hp, rfl⟩, rfl, rfl, rfl, rfl, rfl⟩ := hmatches
        obtain ⟨rfl, ⟨p', hp', rfl⟩, rfl, rfl, rfl, rfl, rfl⟩ := hmatches'
        cases hp.symm.trans hp'
        exact ⟨_, he, he'⟩

/-- An execution that finds a result under its scope has failed, or answers with it. -/
theorem found (hl : st.Lawful) (hs : st.Consistent s) (hstored : st.Stored e.scope v s)
    (h : Thread st.Evolves (e.program st) s steps (.done result) s') :
    ((∃ error, result = .error error) ∨ e.Is v ∧ result = .ok (v.answer true)) ∧
      Unchanged steps := by
  cases e with
  | queuePolicyRetry command =>
    obtain ⟨r, rfl, hthread⟩ := h.of_map
    cases v with
    | started v => exact hstored.elim
    | queued v =>
      obtain ⟨⟨error, rfl⟩ | ⟨hcontent, rfl⟩, hunchanged⟩ :=
        QueuePolicyRetry.found hl hs hstored hthread
      · exact ⟨Or.inl ⟨error, rfl⟩, hunchanged⟩
      · exact ⟨Or.inr ⟨is_queuePolicyRetry.mpr hcontent, rfl⟩, hunchanged⟩
  | queueAdjudicatedRetry command =>
    obtain ⟨r, rfl, hthread⟩ := h.of_map
    cases v with
    | started v => exact hstored.elim
    | queued v =>
      obtain ⟨⟨error, rfl⟩ | ⟨hcontent, rfl⟩, hunchanged⟩ :=
        QueueAdjudicatedRetry.found hl hs hstored hthread
      · exact ⟨Or.inl ⟨error, rfl⟩, hunchanged⟩
      · exact ⟨Or.inr ⟨is_queueAdjudicatedRetry.mpr hcontent, rfl⟩, hunchanged⟩
  | commitRetryStart command =>
    obtain ⟨r, rfl, hthread⟩ := h.of_map
    cases v with
    | queued v => exact hstored.elim
    | started v =>
      obtain ⟨⟨error, rfl⟩ | ⟨hcontent, rfl⟩, hunchanged⟩ :=
        CommitRetryStart.found hl hs hstored hthread
      · exact ⟨Or.inl ⟨error, rfl⟩, hunchanged⟩
      · exact ⟨Or.inr ⟨is_commitRetryStart.mpr hcontent, rfl⟩, hunchanged⟩

/-- Under its authority, an execution of what is stored answers with it. -/
theorem replays (hl : st.Lawful) (hs : st.Consistent s) (hstored : st.Stored e.scope v s)
    (hv : e.Is v) (hcurrent : ∀ t rest, steps = (t, t) :: rest → e.Current st t)
    (h : Thread st.Evolves (e.program st) s steps (.done result) s') :
    result = .ok (v.answer true) ∧ Unchanged steps := by
  cases e with
  | queuePolicyRetry command =>
    obtain ⟨r, rfl, hthread⟩ := h.of_map
    cases v with
    | started v => exact hstored.elim
    | queued v =>
      obtain ⟨rfl, hunchanged⟩ := QueuePolicyRetry.replays hl hs hstored
        (is_queuePolicyRetry.mp hv) hcurrent hthread
      exact ⟨rfl, hunchanged⟩
  | queueAdjudicatedRetry command =>
    obtain ⟨r, rfl, hthread⟩ := h.of_map
    cases v with
    | started v => exact hstored.elim
    | queued v =>
      obtain ⟨rfl, hunchanged⟩ := QueueAdjudicatedRetry.replays hl hs hstored
        (is_queueAdjudicatedRetry.mp hv) hcurrent hthread
      exact ⟨rfl, hunchanged⟩
  | commitRetryStart command =>
    obtain ⟨r, rfl, hthread⟩ := h.of_map
    cases v with
    | queued v => exact hstored.elim
    | started v =>
      obtain ⟨rfl, hunchanged⟩ := CommitRetryStart.replays hl hs hstored
        (is_commitRetryStart.mp hv) hcurrent hthread
      exact ⟨rfl, hunchanged⟩

/-- Under an authority that was superseded, an execution has failed. -/
theorem refused (hrefused : ∀ t rest, steps = (t, t) :: rest → ¬ e.Current st t)
    (h : Thread st.Evolves (e.program st) s steps (.done result) s') :
    (∃ error, result = .error error) ∧ Unchanged steps := by
  cases e with
  | queuePolicyRetry command =>
    obtain ⟨r, rfl, hthread⟩ := h.of_map
    obtain ⟨⟨error, rfl⟩, hunchanged⟩ := Handler.execute_refused_of_read
      (QueuePolicyRetry.require_eq st.queueing)
      (fun t rest hsteps a ha => hrefused t rest hsteps ⟨a, ha⟩) hthread
    exact ⟨⟨error, rfl⟩, hunchanged⟩
  | queueAdjudicatedRetry command =>
    obtain ⟨r, rfl, hthread⟩ := h.of_map
    obtain ⟨⟨error, rfl⟩, hunchanged⟩ := Handler.execute_refused_of_read
      (QueueAdjudicatedRetry.require_eq st.queueing)
      (fun t rest hsteps a ha => hrefused t rest hsteps ⟨a, ha⟩) hthread
    exact ⟨⟨error, rfl⟩, hunchanged⟩
  | commitRetryStart command =>
    obtain ⟨r, rfl, hthread⟩ := h.of_map
    obtain ⟨⟨error, rfl⟩, hunchanged⟩ := CommitRetryStart.refused hrefused hthread
    exact ⟨⟨error, rfl⟩, hunchanged⟩

theorem program_guarantees (hl : st.Lawful) (hs : st.Consistent s) (e : RetryExecution) :
    Prog.Guarantees st.Evolves (e.program st) s := by
  cases e with
  | queuePolicyRetry command =>
    exact ((QueuePolicyRetry.lawful hl command).execute_guarantees hs).bind fun _ _ _ _ => .done _ _
  | queueAdjudicatedRetry command =>
    exact ((QueueAdjudicatedRetry.lawful hl command).execute_guarantees hs).bind
      fun _ _ _ _ => .done _ _
  | commitRetryStart command =>
    exact ((CommitRetryStart.lawful hl command).execute_guarantees hs).bind fun _ _ _ _ => .done _ _

theorem program_oneWrite (hl : st.Lawful) (e : RetryExecution) : Prog.OneWrite (e.program st) := by
  cases e with
  | queuePolicyRetry command =>
    exact (Handler.execute_oneWrite (QueuePolicyRetry.lawful hl command).quiet).map _
  | queueAdjudicatedRetry command =>
    exact (Handler.execute_oneWrite (QueueAdjudicatedRetry.lawful hl command).quiet).map _
  | commitRetryStart command =>
    exact (Handler.execute_oneWrite (CommitRetryStart.lawful hl command).quiet).map _

/-- The authority, the receipt of a start, the lookup, the locked snapshot and the publication. -/
theorem program_within (st : RetryStore σ) (e : RetryExecution) :
    Prog.Within 5 (e.program st) := by
  cases e with
  | queuePolicyRetry command =>
    refine Prog.Within.bind (m := 5) (n := 0) (Handler.execute_within (n := 2) ?_)
      fun _ => .done _ _
    rw [QueuePolicyRetry.require_eq]
    exact (Prog.within_read _).mono (by decide)
  | queueAdjudicatedRetry command =>
    refine Prog.Within.bind (m := 5) (n := 0) (Handler.execute_within (n := 2) ?_)
      fun _ => .done _ _
    rw [QueueAdjudicatedRetry.require_eq]
    exact (Prog.within_read _).mono (by decide)
  | commitRetryStart command =>
    refine Prog.Within.bind (m := 5) (n := 0) (Handler.execute_within (n := 2) ?_)
      fun _ => .done _ _
    rw [CommitRetryStart.require_eq]
    refine Prog.Within.bind (m := 1) (n := 1) (Prog.within_read _) fun authority => ?_
    refine Prog.Within.bind (m := 0) (n := 1) (.done _ _) fun d => ?_
    exact Prog.Within.bind (m := 1) (n := 0) (Prog.within_read _) fun canonical => .done _ _

/-- How an execution has ended, and the one way in which it changes the store. -/
inductive Settled (st : RetryStore σ) (e : RetryExecution) (s' : σ) :
    List (σ × σ) → Raises RetryAnswer → Prop
  | failed {steps : List (σ × σ)} {error : Raised} (hunchanged : Unchanged steps) :
      Settled st e s' steps (.error error)
  | replayed {steps : List (σ × σ)} {v : StoredRetry} (hstored : st.Stored e.scope v s')
      (hconcerns : e.Concerns v) (hunchanged : Unchanged steps) :
      Settled st e s' steps (.ok (v.answer true))
  | published {steps : List (σ × σ)} {w w' : σ} {v : StoredRetry} (hunchanged : Unchanged steps)
      (hvacant : e.Vacant st w) (hfirst : st.Stored e.scope v w')
      (hstored : st.Stored e.scope v s')
      (hconcerns : e.Concerns v) (his : e.KeyFresh st w → e.Is v) :
      Settled st e s' (steps ++ [(w, w')]) (.ok (v.answer false))

theorem vacant_of_queue {scope : RunRetryIdentityScope} (hscope : e.scope = .inl scope)
    (hnone : st.queueing.lookupStored scope s = .ok none) : e.Vacant st s := by
  intro v hstored
  rw [hscope] at hstored
  cases v with
  | queued v => cases hstored.symm.trans hnone
  | started v => exact hstored

theorem vacant_of_start {scope : RunRetryIdentityScope} (hscope : e.scope = .inr scope)
    (hnone : st.committing.lookupStored scope s = .ok none) : e.Vacant st s := by
  intro v hstored
  rw [hscope] at hstored
  cases v with
  | queued v => exact hstored
  | started v => cases hstored.symm.trans hnone

/-- Whatever the others do, an execution that has ended failed, answers with what is stored, or was
the one to store it. -/
theorem settled (hl : st.Lawful) (hs : st.Consistent s)
    (h : Thread st.Evolves (e.program st) s steps (.done result) s') :
    e.Settled st s' steps result := by
  cases e with
  | queuePolicyRetry command =>
    obtain ⟨r, rfl, hthread⟩ := h.of_map
    cases (QueuePolicyRetry.lawful hl command).outcome hs hthread with
    | failed hunchanged => exact .failed hunchanged
    | answered _ hanswer => cases hanswer
    | @stored _ _ v _ _ hreplay hheld hunchanged =>
      obtain ⟨hcontent, rfl⟩ := QueuePolicyRetry.replay_eq_ok.mp hreplay
      exact .replayed (v := .queued v) hheld (is_queuePolicyRetry.mpr hcontent) hunchanged
    | @repeated _ v hshown hunchanged =>
      exact .replayed (v := .queued v) hshown.1 (is_queuePolicyRetry.mpr hshown.2) hunchanged
    | @published _ _ _ v hunchanged hmade _ hshown =>
      have his := is_queuePolicyRetry.mpr hshown.2
      exact .published (v := .queued v) hunchanged (vacant_of_queue rfl hmade.1) hmade.2.1 hshown.1
        his fun _ => his
  | queueAdjudicatedRetry command =>
    obtain ⟨r, rfl, hthread⟩ := h.of_map
    cases (QueueAdjudicatedRetry.lawful hl command).outcome hs hthread with
    | failed hunchanged => exact .failed hunchanged
    | answered _ hanswer => cases hanswer
    | @stored _ _ v _ hgranted hreplay hheld hunchanged =>
      obtain ⟨hcontent, rfl⟩ := (QueueAdjudicatedRetry.replay_eq_ok hgranted).mp hreplay
      exact .replayed (v := .queued v) hheld (is_queueAdjudicatedRetry.mpr hcontent) hunchanged
    | @repeated _ v hshown hunchanged =>
      exact .replayed (v := .queued v) hshown.1 (is_queueAdjudicatedRetry.mpr hshown.2) hunchanged
    | @published _ _ _ v hunchanged hmade _ hshown =>
      have his := is_queueAdjudicatedRetry.mpr hshown.2
      exact .published (v := .queued v) hunchanged (vacant_of_queue rfl hmade.1) hmade.2.1 hshown.1
        his fun _ => his
  | commitRetryStart command =>
    obtain ⟨r, rfl, hthread⟩ := h.of_map
    cases (CommitRetryStart.lawful hl command).outcome hs hthread with
    | failed hunchanged => exact .failed hunchanged
    | answered _ hanswer => cases hanswer
    | @stored _ a v _ hgranted hreplay hheld hunchanged =>
      obtain ⟨d, -, -, hcanonical⟩ := hgranted
      obtain ⟨hcontent, rfl⟩ := (CommitRetryStart.replay_eq_ok hcanonical).mp hreplay
      exact .replayed (v := .started v) hheld hcontent.consumed hunchanged
    | repeated hshown hunchanged =>
      obtain ⟨v, hcommitted, rfl, hconsumed⟩ := hshown
      exact .replayed (v := .started v) hcommitted hconsumed hunchanged
    | published hunchanged hmade hrest hshown =>
      obtain ⟨hnone, ⟨_, -, -, hconsumed⟩, v, hcommitted, rfl, hcontent⟩ := hmade
      exact .published (v := .started v) hunchanged (vacant_of_start rfl hnone) hcommitted
        (hrest.committed _ _ hcommitted) hconsumed fun hfresh =>
          is_commitRetryStart.mpr (hcontent hfresh)

/-- The original of a scope stored what it asks for, under a key that was free. -/
theorem Settled.original {answer : RetryAnswer} (h : e.Settled st s' steps (.ok answer))
    (hfirst : answer.replayed = false)
    (hfresh : ∀ w w', (w, w') ∈ steps → e.Vacant st w → e.KeyFresh st w) :
    ∃ v, st.Stored e.scope v s' ∧ e.Is v ∧ answer = v.answer false := by
  cases h with
  | replayed =>
    rw [StoredRetry.answer_replayed] at hfirst
    cases hfirst
  | published _ hvacant _ hstored _ his =>
    exact ⟨_, hstored, his (hfresh _ _ List.mem_concat_self hvacant), rfl⟩

/-- The Attempt that a start is answered with is the one that consumed its intent. -/
theorem Settled.consumes {commit : CommitStartResult} {replayed : Bool} (hs' : st.Consistent s')
    (h : e.Settled st s' steps (.ok (.started commit replayed))) : ∃ p,
      commit.attempt.retryProvenance = some p ∧
        (st.run s').Consumes p.retryIntentId commit.attempt.id := by
  generalize hanswer : (Except.ok (RetryAnswer.started commit replayed) : Except Raised _) = r at h
  have hstored : ∃ v, st.Stored e.scope (.started v) s' ∧ v.commit = commit := by
    cases h with
    | failed => cases hanswer
    | @replayed _ v hstored =>
      cases v with
      | queued => cases hanswer
      | started v =>
        cases hanswer
        exact ⟨v, hstored, rfl⟩
    | @published _ _ _ v _ _ _ hstored =>
      cases v with
      | queued => cases hanswer
      | started v =>
        cases hanswer
        exact ⟨v, hstored, rfl⟩
  obtain ⟨v, hstored, rfl⟩ := hstored
  cases hscope : e.scope with
  | inl scope =>
    rw [hscope] at hstored
    exact hstored.elim
  | inr scope =>
    rw [hscope] at hstored
    obtain ⟨p, -, hprovenance, hconsumes, -⟩ := hs'.started _ _ hstored
    exact ⟨p, hprovenance, hconsumes⟩

end RetryExecution

end QaRunner
