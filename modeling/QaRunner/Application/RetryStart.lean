import QaRunner.Application.RetryPublication

/-! What the start of a queued retry stores over the shared store, and when it answers with what is
stored. -/
namespace QaRunner
open Guarded Interleaving PublishOnce Aggregate

/-- The Attempt is the one that the command names. -/
structure CommitRetryStartCommand.Names (command : CommitRetryStartCommand) (a : Attempt) :
    Prop where
  id : a.id = command.newAttemptId
  assignmentId : a.assignmentId = command.assignmentId
  worker : a.worker = command.worker
  startCommitKey : a.startCommitKey = command.startCommitKey
  specDigest : a.specDigest = command.specDigest

/-- The Attempt of a start consumed the intent of the command. -/
def CommitRetryStartCommand.Consumed (command : CommitRetryStartCommand)
    (commit : CommitStartResult) : Prop :=
  ∃ p, commit.attempt.retryProvenance = some p ∧
    command.receipt.intent.digest = .ok p.retryIntentDigest

/-- The stored start is of the receipt of the command, on the Attempt that the command names. -/
structure CommitRetryStartCommand.Content (command : CommitRetryStartCommand)
    (v : StoredRetryCommit) : Prop where
  receipt : command.receipt.digest = .ok v.receiptDigest
  consumed : command.Consumed v.commit
  names : command.Names v.commit.attempt

/-- An Attempt of the Run that has the start key of the command is the one that it names. -/
def CommitRetryStartCommand.KeyFresh (command : CommitRetryStartCommand) (run : Run) : Prop :=
  ∀ a ∈ run.attempts, a.startCommitKey = command.startCommitKey → command.Names a

/-- The Attempt that a start is answered with is new and as the command names it, or was there
under its key. -/
theorem CommitRetryStartCommand.names_of_commitStart (command : CommitRetryStartCommand) {run : Run}
    {v : ℤ} {result : CommitStartResult}
    (h : run.commitStart command.assignmentId command.worker command.startCommitKey
      command.specDigest command.newAttemptId command.observedAt v = .ok result)
    (hfresh : command.KeyFresh run) : command.Names result.attempt := by
  rcases Run.attempt_of_commitStart h with
    ⟨-, hmem, hkey⟩ | ⟨-, hid, hassignment, hworker, hkey, hspec⟩
  · exact hfresh _ hmem hkey
  · exact ⟨hid, hassignment, hworker, hkey, hspec⟩

namespace RetryStore

variable {σ : Type} {st : RetryStore σ} {s s' : σ}

/-- A start on the intent of the command is stored under its scope. -/
def StartedOf (st : RetryStore σ) (command : CommitRetryStartCommand) (commit : CommitStartResult)
    (s : σ) : Prop :=
  ∃ v, st.Committed command.identityScope v s ∧ v.commit = commit ∧ command.Consumed commit

/-- The first start under a scope was stored: of the Attempt that the command names, unless its
key was another's. -/
def Starts (st : RetryStore σ) (command : CommitRetryStartCommand) (s : σ)
    (commit : CommitStartResult) (s' : σ) : Prop :=
  st.committing.lookupStored command.identityScope s = .ok none ∧ st.StartedOf command commit s' ∧
    ∃ v, st.Committed command.identityScope v s' ∧ v.commit = commit ∧
      (command.KeyFresh (st.run s) → command.Content v)

theorem StartedOf.evolves {command : CommitRetryStartCommand} {commit : CommitStartResult}
    (h : st.StartedOf command commit s) (hss' : st.Evolves s s') :
    st.StartedOf command commit s' := by
  obtain ⟨v, hv, hcommit⟩ := h
  exact ⟨v, hss'.committed _ _ hv, hcommit⟩

end RetryStore

namespace CommitRetryStart

variable {σ : Type} {st : RetryStore σ} {gateway : RetryCommitStartGateway σ}
  {command : CommitRetryStartCommand} {authority : RetryCommitAuthority}
  {receipt : RetryQueueReceipt} {snapshot : RetryCommitMutationSnapshot} {s s' : σ}

/-- The receipt that is stored for the intent is the one of the command. -/
def Canonical (command : CommitRetryStartCommand) (receipt : RetryQueueReceipt) : Prop :=
  ∃ digest, receipt.digest = .ok digest ∧ command.receipt.digest = .ok digest

theorem requireCanonical_eq_ok {u : Unit} :
    requireCanonical command receipt = .ok u ↔ Canonical command receipt := by
  simp only [requireCanonical, bind_eq_ok, Raises.domain_eq_ok, Raises.conflictIf_eq_ok, ne_eq,
    not_not, Canonical]
  constructor
  · rintro ⟨digest, hreceipt, _, hcommand, rfl⟩
    exact ⟨digest, hreceipt, hcommand⟩
  · rintro ⟨digest, hreceipt, hcommand⟩
    exact ⟨digest, hreceipt, digest, hcommand, rfl⟩

theorem requireCurrent_eq_ok {u : Unit} : requireCurrent command authority = .ok u ↔
    authorityMatches authority command.receipt = .ok true := by
  simp only [requireCurrent, bind_eq_ok, Raises.domain_eq_ok, Raises.conflictIf_eq_ok,
    Bool.not_eq_false]
  constructor
  · rintro ⟨_, hmatched, rfl⟩
    exact hmatched
  · exact fun h => ⟨true, h, rfl⟩

/-- What is stored is compared with the receipt and the Attempt of the command. -/
theorem replayMismatch_eq_ok_false {v : StoredRetryCommit}
    (hcanonical : Canonical command receipt) :
    replayMismatch command receipt v = .ok false ↔ command.Content v := by
  obtain ⟨digest, hreceipt, hcommand⟩ := hcanonical
  simp only [replayMismatch, anyOf_eq_ok_false, List.forall_mem_cons, List.not_mem_nil,
    false_imp_iff, implies_true, and_true, differs_eq_ok_false, Except.ok.injEq,
    decide_eq_false_iff_not, ne_eq, not_or, not_not, hreceipt]
  constructor
  · rintro ⟨rfl, hprovenance, hid, hassignment, hworker, hkey, hspec⟩
    refine ⟨hcommand, ?_, hid, hassignment, hworker, hkey, hspec⟩
    cases hstored : v.commit.attempt.retryProvenance with
    | none =>
      rw [hstored] at hprovenance
      cases hprovenance
    | some p =>
      rw [hstored] at hprovenance
      exact ⟨p, hstored, differs_eq_ok_false.mp hprovenance⟩
  · rintro ⟨hdigest, ⟨p, hprovenance, hintent⟩, hid, hassignment, hworker, hkey, hspec⟩
    rw [hprovenance]
    exact ⟨Except.ok.inj (hcommand.symm.trans hdigest), differs_eq_ok_false.mpr hintent, hid,
      hassignment, hworker, hkey, hspec⟩

/-- What is stored answers a command about the same start. -/
theorem replay_eq_ok {v : StoredRetryCommit} {result : CommitRetryStartResult}
    (hcanonical : Canonical command receipt) :
    replay command receipt v = .ok result ↔ command.Content v ∧ result = ⟨v.commit, true⟩ := by
  simp only [replay, bind_eq_ok, exists_unit, Raises.domain_eq_ok, Raises.refuseIf_eq_ok,
    Bool.not_eq_true, pure_eq_ok, ← replayMismatch_eq_ok_false hcanonical]
  constructor
  · rintro ⟨_, hmatched, _, -, rfl, rfl⟩
    exact ⟨hmatched, rfl⟩
  · rintro ⟨hmatched, rfl⟩
    obtain ⟨p, -, hintent⟩ := ((replayMismatch_eq_ok_false hcanonical).mp hmatched).consumed
    exact ⟨false, hmatched, _, hintent, rfl, rfl⟩

/-- The publication that a command prepares starts its retry on the Run of the snapshot. -/
structure Prepared (command : CommitRetryStartCommand) (receipt : RetryQueueReceipt) (run : Run)
    (p : RetryCommitPublication) : Prop where
  scope : p.identityScope = command.identityScope
  snapshotRun : p.expectedSnapshot.run = run
  receipt : p.receipt = receipt
  steps : RetryStore.Steps run p.commit.run
  mem : p.commit.attempt ∈ p.commit.run.attempts
  names : command.KeyFresh run → command.Names p.commit.attempt

theorem prepared {p : RetryCommitPublication}
    (h : prepare command authority receipt snapshot = .ok p) :
    Prepared command receipt snapshot.run p := by
  simp only [prepare, bind_eq_ok, exists_unit, Raises.domain_eq_ok, Raises.port_eq_ok,
    RetryCommitPublication.new, construct_eq_ok] at h
  obtain ⟨-, commit, hcommit, _, -, _, -, -, rfl⟩ := h
  refine ⟨rfl, rfl, rfl, RetryStore.steps_of_exec (c := .commitStart command.assignmentId
    command.worker command.startCommitKey command.specDigest command.newAttemptId
    command.observedAt command.expectedRunVersion) ?_, Run.mem_of_commitStart hcommit,
    command.names_of_commitStart hcommit⟩
  exact Run.exec_commitStart.mpr ⟨_, hcommit, rfl⟩

/-- The Attempt of a publication carries the intent of its receipt. -/
theorem publication_intent (p : RetryCommitPublication) : ∃ provenance,
    p.commit.attempt.retryProvenance = some provenance ∧
      p.receipt.intent.digest = .ok provenance.retryIntentDigest := by
  have h := p.accepted
  simp only [RetryCommitPublication.Fields.postInit, bind_eq_ok, exists_unit, Raises.port_eq_ok,
    Port.invalidIf_eq_ok, Bool.not_eq_true] at h
  obtain ⟨-, _, hmismatch, rfl⟩ := h
  simp only [RetryCommitPublication.Fields.bindingMismatch, anyOf_eq_ok_false,
    List.forall_mem_cons] at hmismatch
  obtain ⟨-, hprovenance, -⟩ := hmismatch
  cases hstored : p.commit.attempt.retryProvenance with
  | none =>
    rw [hstored] at hprovenance
    cases hprovenance
  | some provenance =>
    rw [hstored] at hprovenance
    exact ⟨provenance, rfl, Raises.domain_eq_ok.mp (differs_eq_ok_false.mp hprovenance)⟩

/-- The authority that is current now, when it is the one of the receipt. -/
def authorized (gateway : RetryCommitStartGateway σ) (command : CommitRetryStartCommand) (s : σ) :
    Raises RetryCommitAuthority := do
  let authority ← gateway.requireCurrentAuthority command.receipt s
  requireCurrent command authority
  return authority

/-- The receipt that is stored now, when it is the one of the command. -/
def received (gateway : RetryCommitStartGateway σ) (command : CommitRetryStartCommand)
    (intentDigest : Digest) (s : σ) : Raises RetryQueueReceipt := do
  let canonical ← gateway.requireReceiptForUpdate intentDigest s
  requireCanonical command canonical
  return canonical

theorem received_eq_ok {d : Digest} : received gateway command d s = .ok receipt ↔
    gateway.requireReceiptForUpdate d s = .ok receipt ∧ Canonical command receipt := by
  simp only [received, bind_eq_ok, exists_unit, requireCanonical_eq_ok, pure_eq_ok]
  constructor
  · rintro ⟨_, hreceipt, hcanonical, rfl⟩
    exact ⟨hreceipt, hcanonical⟩
  · rintro ⟨hreceipt, hcanonical⟩
    exact ⟨_, hreceipt, hcanonical, rfl⟩

/-- The authority is revalidated, then the receipt is read. -/
theorem require_eq : (handler gateway command).require =
    Prog.read (authorized gateway command) >>= fun authority =>
      Prog.lift (Raises.domain command.receipt.intent.digest) >>= fun d =>
        Prog.read (received gateway command d) >>= fun canonical =>
          pure (authority, canonical) := by
  have hread : Prog.read (authorized gateway command) = Prog.read
      (gateway.requireCurrentAuthority command.receipt) >>= fun authority =>
        Prog.lift (requireCurrent command authority) >>= fun _ => pure authority :=
    (Prog.read_checked _ _).symm
  have hreceived : ∀ d, Prog.read (received gateway command d) =
      Prog.read (gateway.requireReceiptForUpdate d) >>= fun canonical =>
        Prog.lift (requireCanonical command canonical) >>= fun _ => pure canonical :=
    fun d => (Prog.read_checked _ _).symm
  simp only [hread, hreceived, Prog.bind_assoc]
  rfl

theorem quiet_require : Prog.Quiet (handler gateway command).require := by
  rw [require_eq]
  refine (Prog.quiet_read _).bind fun authority => ?_
  refine (Prog.Quiet.done _).bind fun d => ?_
  exact (Prog.quiet_read _).bind fun canonical => .done _

/-- An execution that got its authority saw it first, and then its receipt. -/
theorem of_require {R : σ → σ → Prop} [IsPreorder σ R] {steps : List (σ × σ)}
    {a : RetryCommitAuthority × RetryQueueReceipt}
    (h : Thread R (handler gateway command).require s steps (.done (.ok a)) s') :
    ∃ t u d, steps = [(t, t), (u, u)] ∧ authorized gateway command t = .ok a.1 ∧
      command.receipt.intent.digest = .ok d ∧ received gateway command d u = .ok a.2 ∧ R u s' := by
  rw [require_eq] at h
  obtain ⟨authority, first, second, t', rfl, hcurrent, hafter⟩ := h.of_bind_ok
  obtain ⟨t, -, -, rfl, hauthority⟩ := hcurrent.of_read
  obtain ⟨d, third, fourth, u', rfl, hlift, hthen⟩ := hafter.of_bind_ok
  obtain ⟨hdigest, rfl⟩ := hlift.of_lift
  obtain ⟨canonical, fifth, sixth, w, rfl, hstored, hlast⟩ := hthen.of_bind_ok
  obtain ⟨u, -, huw, rfl, hreceived⟩ := hstored.of_read
  obtain ⟨hdone, rfl, hws'⟩ := hlast.of_done
  cases hdone
  exact ⟨t, u, d, rfl, hauthority, Raises.domain_eq_ok.mp hdigest, hreceived,
    trans_of R huw hws'⟩

/-- What the execution has read before its lookup: the receipt that is stored for its intent. -/
def Granted (st : RetryStore σ) (command : CommitRetryStartCommand)
    (a : RetryCommitAuthority × RetryQueueReceipt) (s : σ) : Prop :=
  ∃ d, command.receipt.intent.digest = .ok d ∧ st.Receipted d a.2 s ∧ Canonical command a.2

theorem Granted.evolves {a : RetryCommitAuthority × RetryQueueReceipt}
    (h : Granted st command a s) (hss' : st.Evolves s s') : Granted st command a s' := by
  obtain ⟨d, hdigest, hreceipted, hcanonical⟩ := h
  exact ⟨d, hdigest, hss'.receipted _ _ hreceipted, hcanonical⟩

theorem granted_of_require {steps : List (σ × σ)} {a : RetryCommitAuthority × RetryQueueReceipt}
    (h : Thread st.Evolves (handler st.committing command).require s steps (.done (.ok a)) s') :
    Granted st command a s' := by
  obtain ⟨t, u, d, -, -, hdigest, hreceived, hus'⟩ := of_require h
  obtain ⟨hreceipted, hcanonical⟩ := received_eq_ok.mp hreceived
  exact ⟨d, hdigest, hus'.receipted _ _ hreceipted, hcanonical⟩

theorem publishes (hl : st.Lawful) {a : RetryCommitAuthority × RetryQueueReceipt}
    {p : RetryCommitPublication} {r : ReplayResult CommitStartResult}
    (hgranted : Granted st command a s) (hsince : st.Since snapshot.run s)
    (hprepare : prepare command a.1 a.2 snapshot = .ok p)
    (hpublish : st.committing.publish p s = .ok (r, s')) : st.Evolves s s' ∧
      Handler.Stores (st.StartedOf command) (st.Starts command) s r s' := by
  obtain ⟨d, hintent, hreceipted, digest, hdigest, hcommand⟩ := hgranted
  obtain ⟨hscope, hsnapshot, hreceipt, hsteps, hmem, hnames⟩ := prepared hprepare
  obtain ⟨provenance, hprovenance, hprovenanceDigest⟩ := publication_intent p
  have hsame : d = provenance.retryIntentDigest := by
    rw [hreceipt, hl.receipt hreceipted] at hprovenanceDigest
    exact Except.ok.inj hprovenanceDigest
  have hconsumed : command.Consumed p.commit := ⟨provenance, hprovenance, hsame ▸ hintent⟩
  have hpublished := hl.publish hpublish
  refine ⟨RetryStore.evolves_of_commitPublished hpublished (hsnapshot ▸ hsince) (hsnapshot ▸ hsteps)
    ⟨provenance, hprovenance, Run.consumes_of_mem hmem hprovenance, ?_⟩, ?_⟩
  · rw [hreceipt, ← hsame]
    exact hreceipted
  · cases hpublished with
    | repeated hcommitted hstored hstoredDigest =>
      rw [hscope] at hcommitted
      rw [hreceipt, hl.receipt hreceipted] at hstoredDigest
      cases hstoredDigest
      exact .repeated ⟨_, hcommitted, rfl, _, hstored, hintent⟩
    | first hvacant hversion hrun hcommitted hcommit hreceiptDigest =>
      rw [hscope] at hvacant hcommitted
      rw [hreceipt, hdigest] at hreceiptDigest
      cases hreceiptDigest
      have hrun : st.run s = snapshot.run := hsince.eq_of_version (hsnapshot ▸ hversion)
      rw [← hcommit] at hconsumed hnames
      refine .first ⟨hvacant, ⟨_, hcommitted, rfl, hconsumed⟩, _, hcommitted, rfl, ?_⟩
      intro hfresh
      rw [hrun] at hfresh
      exact ⟨hcommand, hconsumed, hnames hfresh⟩

theorem lawful (hl : st.Lawful) (command : CommitRetryStartCommand) :
    (handler st.committing command).Lawful st.Evolves st.Consistent (Granted st command)
      (fun _ snapshot s => st.Since snapshot.run s) (st.Committed command.identityScope)
      (st.StartedOf command) (st.Starts command) where
  quiet := quiet_require
  inv h hs := h.consistent hs
  holds h _ := h.committed _ _
  shows h _ hshown := hshown.evolves h
  made h := h.2.1
  stays h hgranted := hgranted.evolves h
  locked h hsince := hsince.evolves h
  granted h _ := granted_of_require h
  lookup _ _ hlookup := hlookup
  lock _ _ hlock := RetryStore.since_of_eq (hl.commitSnapshot hlock)
  publish := fun hgranted hsince _ hprepare hpublish =>
    publishes hl hgranted hsince hprepare hpublish

section
variable {v : StoredRetryCommit} {steps : List (σ × σ)} {result : Raises CommitRetryStartResult}

/-- An execution that finds a start under its scope has failed, or answers with it. -/
theorem found (hl : st.Lawful) (hs : st.Consistent s)
    (hcommitted : st.Committed command.identityScope v s)
    (h : Thread st.Evolves (execute st.committing command) s steps (.done result) s') :
    ((∃ e, result = .error e) ∨ command.Content v ∧ result = .ok ⟨v.commit, true⟩) ∧
      Unchanged steps := by
  obtain ⟨hresult, hunchanged⟩ := (lawful hl command).found hs (fun _ => rfl)
    (fun _ t hst _ => hst.committed _ _ hcommitted) h
  refine ⟨?_, hunchanged⟩
  rcases hresult with herror | ⟨a, t, ⟨d, -, -, hcanonical⟩, rfl⟩
  · exact Or.inl herror
  · cases hreplay : replay command a.2 v with
    | error e => exact Or.inl ⟨e, hreplay⟩
    | ok b =>
      obtain ⟨hcontent, rfl⟩ := (replay_eq_ok hcanonical).mp hreplay
      exact Or.inr ⟨hcontent, hreplay⟩

/-- Under its authority, an execution reads the receipt of the start that is stored. -/
theorem require_of_stored {first : List (σ × σ)}
    {r : Raises (RetryCommitAuthority × RetryQueueReceipt)} (hs : st.Consistent s) (hcommitted : st.Committed command.identityScope v s)
    (hcontent : command.Content v)
    (hcurrent : ∀ t rest, first = (t, t) :: rest → ∃ a, authorized st.committing command t = .ok a)
    (h : Thread st.Evolves (handler st.committing command).require s first (.done r) s') :
    ∃ a, r = .ok a ∧ Canonical command a.2 := by
  obtain ⟨hdigest, ⟨p, hprovenance, hintent⟩, -⟩ := hcontent
  obtain ⟨p', receipt, hprovenance', -, hreceipted, hstored⟩ := hs.started _ _ hcommitted
  cases hprovenance.symm.trans hprovenance'
  have hcanonical : Canonical command receipt := ⟨_, hstored, hdigest⟩
  rw [require_eq] at h
  rcases h.of_bind with ⟨e, rfl, hread⟩ | ⟨authority, first, second, t', rfl, hread, hafter⟩
  · obtain ⟨t, -, -, rfl, hlook⟩ := hread.of_read
    obtain ⟨a, hgranted⟩ := hcurrent t [] rfl
    cases hlook.symm.trans hgranted
  obtain ⟨t, hst, htt', rfl, hlook⟩ := hread.of_read
  rw [hintent] at hafter
  rcases hafter.of_bind with ⟨e, rfl, hlift⟩ | ⟨d, third, fourth, u', rfl, hlift, hthen⟩
  · obtain ⟨hdone, -, -⟩ := hlift.of_done
    cases hdone
  obtain ⟨hdone, rfl, htu'⟩ := hlift.of_done
  cases hdone
  have hfound : ∀ u, st.Evolves u' u →
      received st.committing command p.retryIntentDigest u = .ok receipt := fun u hu =>
    received_eq_ok.mpr ⟨(trans_of st.Evolves hst (trans_of st.Evolves htt' (trans_of st.Evolves
      htu' hu))).receipted _ _ hreceipted, hcanonical⟩
  rcases hthen.of_bind with ⟨e, rfl, hread'⟩ | ⟨canonical, fifth, sixth, w, rfl, hread', hlast⟩
  · obtain ⟨u, hu, -, -, hlook'⟩ := hread'.of_read
    cases hlook'.symm.trans (hfound u hu)
  · obtain ⟨u, hu, -, -, hlook'⟩ := hread'.of_read
    cases hlook'.symm.trans (hfound u hu)
    obtain ⟨hdone, -, -⟩ := hlast.of_done
    cases hdone
    exact ⟨_, rfl, hcanonical⟩

theorem replays (hl : st.Lawful) (hs : st.Consistent s)
    (hcommitted : st.Committed command.identityScope v s) (hcontent : command.Content v)
    (hcurrent : ∀ t rest, steps = (t, t) :: rest →
      ∃ a, authorized st.committing command t = .ok a)
    (h : Thread st.Evolves (execute st.committing command) s steps (.done result) s') :
    result = .ok ⟨v.commit, true⟩ ∧ Unchanged steps := by
  obtain ⟨a, hcanonical, hresult, hunchanged⟩ := (lawful hl command).replays hs
    (fun a (_ : Canonical command a.2) => rfl)
    (fun first r t hprefix hfirst => require_of_stored hs hcommitted hcontent (fun u rest hu => by
      obtain ⟨later, rfl⟩ := hprefix
      exact hcurrent u (rest ++ later) (by rw [hu]; rfl)) hfirst)
    (fun _ t _ hst _ => hst.committed _ _ hcommitted) h
  exact ⟨hresult.trans ((replay_eq_ok hcanonical).mpr ⟨hcontent, rfl⟩), hunchanged⟩

/-- Under another authority it has failed. -/
theorem refused (hrefused : ∀ t rest, steps = (t, t) :: rest →
      ¬ ∃ a, authorized st.committing command t = .ok a)
    (h : Thread st.Evolves (execute st.committing command) s steps (.done result) s') :
    (∃ e, result = .error e) ∧ Unchanged steps := by
  refine Handler.execute_refused quiet_require (fun first a t hprefix hfirst => ?_) h
  obtain ⟨u, w, -, rfl, hcurrent, -⟩ := of_require hfirst
  obtain ⟨rest, rfl⟩ := hprefix
  exact hrefused u _ rfl ⟨_, hcurrent⟩

end

end CommitRetryStart

end QaRunner
