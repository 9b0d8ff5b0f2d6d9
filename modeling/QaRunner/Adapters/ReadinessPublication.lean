import QaRunner.Adapters.BatchPublication

/-! The publication of the fact with which a Batch starts to finalize: what it writes, that the
tables stay consistent, and what a lookup finds afterwards. -/
namespace QaRunner
open Guarded Interleaving PublishOnce

theorem BatchFinalizationReadinessPublication.new_eq_ok
    {f : BatchFinalizationReadinessPublication.Fields}
    {p : BatchFinalizationReadinessPublication} : new f = .ok p ↔ p.toFields = f := by
  simp only [new, construct_eq_ok]
  constructor
  · rintro ⟨_, rfl⟩
    rfl
  · rintro rfl
    exact ⟨p.accepted, rfl⟩

/-- The parts of a publication are of one ready Batch. -/
structure BatchFinalizationReadinessPublication.Bound
    (p : BatchFinalizationReadinessPublication) : Prop where
  ready : p.authority.snapshot.reason = .ready
  batchId : p.projection.batchId = p.authority.snapshot.batchId
  version : p.projection.sourceBatchVersion = p.authority.snapshot.sourceBatchVersion
  locked : p.expectedSnapshot.batchVersion = p.authority.snapshot.sourceBatchVersion
  batchVersion : p.projection.batchVersion = p.expectedSnapshot.batchVersion + 1
  state : p.projection.state = .finalizing
  digest : p.authority.snapshot.readinessDigest = .ok p.projection.readinessDigest

theorem BatchFinalizationReadinessPublication.bound
    (p : BatchFinalizationReadinessPublication) : p.Bound := by
  have h := p.accepted
  simp only [Fields.postInit, bind_eq_ok, Raises.port_eq_ok, Port.invalidIf_eq_ok,
    Bool.not_eq_true] at h
  obtain ⟨_, hmismatch, rfl⟩ := h
  simp only [Fields.bindingMismatch, anyOf_eq_ok_false, List.forall_mem_cons, Except.ok.injEq,
    decide_eq_false_iff_not, not_or, not_not, ne_eq, differs_eq_ok_false, Raises.domain_eq_ok]
    at hmismatch
  obtain ⟨⟨hready, hsnapshot, hbatch, hversion, hbatchVersion⟩, hdigest, -⟩ := hmismatch
  have hlocked := p.expectedSnapshot.accepted
  simp only [BatchFinalizationReadinessMutationSnapshot.Fields.postInit, then_eq_ok,
    Port.invalidIf_eq_ok, ne_eq, not_not, Prod.mk.injEq] at hlocked
  have hlockedVersion := hlocked.2.2.2.2
  rw [hsnapshot] at hlockedVersion
  have hstate := p.projection.accepted
  simp only [BatchFinalizationReadinessProjection.Fields.postInit, then_eq_ok,
    Port.invalidIf_eq_ok, ne_eq, not_not] at hstate
  exact ⟨hready, hbatch, hversion, hlockedVersion, hbatchVersion, hstate.2.2.2, hdigest⟩

variable {s s' : FinalizationTables} {reads : BatchSourceReads}

namespace PostgresBatchReadiness

variable {candidate : BatchFinalizationReadinessAuthority}
  {p : BatchFinalizationReadinessPublication} {fact : ReadinessFactRow} {row : BatchRow}
  {projection : BatchFinalizationReadinessProjection} {batchId : Str}
  {r : ReplayResult BatchFinalizationReadinessProjection}

theorem mem_of_readinessFactOf (h : s.readinessFactOf batchId = some fact) :
    fact ∈ s.readinessFacts ∧ fact.payload.batchId = batchId := Keyed.find_some h

theorem batchId_ne_of_none (h : s.readinessFactOf batchId = none) :
    ∀ fact ∈ s.readinessFacts, fact.payload.batchId ≠ batchId := Keyed.find_none h

theorem requireLocked_row (h : requireLocked reads candidate s batchId = .ok row) :
    candidate.snapshot.batchId = batchId ∧ s.batches batchId = some row ∧
      requireSourceState candidate s row = .ok () := by
  simp only [requireLocked, bind_eq_ok, exists_unit, raiseIf_eq_ok, need_eq_ok, pure_eq_ok,
    ne_eq, not_not] at h
  obtain ⟨hbatch, _, hrow, -, hstate, -, rfl⟩ := h
  exact ⟨hbatch, hrow, hstate⟩

/-- The stored fact, while its Batch is finalizing. -/
theorem storedProjection_eq_ok : storedProjection batchId fact row = .ok projection ↔
    fact.payload.digest = .ok fact.readinessDigest ∧ fact.payload.batchId = batchId ∧
      row.finalizationReadinessRef = some fact.ref ∧
      fact.batchVersion = fact.payload.sourceBatchVersion + 1 ∧ row.state = .finalizing ∧
      row.version = fact.batchVersion ∧ projection.toFields = fact.projection := by
  simp only [storedProjection, bind_eq_ok, exists_unit, Raises.domain_eq_ok,
    Raises.conflictIf_eq_ok, Raises.port_eq_ok, BatchFinalizationReadinessProjection.new_eq_ok,
    not_or, ne_eq, not_not]
  constructor
  · rintro ⟨_, hdigest, ⟨rfl, href, hversion, hstate, hrow, rfl⟩, hprojection⟩
    exact ⟨hdigest, rfl, href, hversion, hstate, hrow, hprojection⟩
  · rintro ⟨hdigest, rfl, href, hversion, hstate, hrow, hprojection⟩
    exact ⟨_, hdigest, ⟨rfl, href, hversion, hstate, hrow, rfl⟩, hprojection⟩

/-- The fact that a publication stores. -/
structure FactOf (p : BatchFinalizationReadinessPublication) (fact : ReadinessFactRow) :
    Prop where
  payload : readinessPayload p.authority.snapshot = .ok fact.payload
  ref : fact.ref = PostgresBatchFinalization.readinessRef p.projection.readinessDigest
  batchVersion : fact.batchVersion = p.authority.snapshot.sourceBatchVersion + 1
  readinessDigest : fact.readinessDigest = p.projection.readinessDigest

/-- What a first publication writes besides its records. -/
structure Written (p : BatchFinalizationReadinessPublication) (s s' : FinalizationTables) :
    Prop where
  runBases : s'.runBases = s.runBases
  batchBases : s'.batchBases = s.batchBases
  runs : s'.runs = s.runs
  attempts : s'.attempts = s.attempts
  fact : ∃ fact, FactOf p fact ∧ s'.readinessFacts = s.readinessFacts ++ [fact]
  batch : ∃ row, s.batches p.projection.batchId = some row ∧ row.state = .running ∧
    row.version = p.expectedSnapshot.batchVersion ∧
    s'.batches = Function.update s.batches p.projection.batchId (some { row with
      state := .finalizing
      version := row.version + 1
      finalizationReadinessRef :=
        some (PostgresBatchFinalization.readinessRef p.projection.readinessDigest) })

theorem written_of_publishRows (h : publishRows s p = .ok s') : Written p s s' := by
  simp only [publishRows, publishBatchProjection, bind_eq_ok, exists_unit, Raises.domain_eq_ok,
    need_eq_ok, raiseIf_eq_ok, pure_eq_ok, not_or, ne_eq, not_not] at h
  obtain ⟨digest, hdigest, payload, hpayload, _, ⟨row, hrow, ⟨hstate, hversion, -⟩, rfl⟩, _, -,
    rfl⟩ := h
  have hsame : digest = p.projection.readinessDigest :=
    Except.ok.inj (hdigest.symm.trans p.bound.digest)
  subst hsame
  exact ⟨rfl, rfl, rfl, rfl, ⟨_, ⟨hpayload, rfl, rfl, rfl⟩, rfl⟩, row, hrow, hstate, hversion,
    rfl⟩

/-- A publication repeats the stored fact of its Batch, or writes the first one. -/
theorem publishReadiness_eq_ok (h : publishReadiness reads candidate s p = .ok (r, s')) :
    (∃ fact ∈ s.readinessFacts, fact.payload.batchId = p.projection.batchId ∧ s' = s ∧
        r.replayed = true ∧ r.value.toFields = fact.projection) ∨
      (s.readinessFactOf p.projection.batchId = none ∧ r = ⟨p.projection, false⟩ ∧
        Written p s s') := by
  simp only [publishReadiness, bind_eq_ok, exists_unit, Raises.conflictIf_eq_ok] at h
  obtain ⟨_, -, -, h⟩ := h
  cases hfact : s.readinessFactOf p.projection.batchId with
  | some fact =>
    simp only [hfact, replayStored, bind_eq_ok, exists_unit, pure_eq_ok, Prod.mk.injEq] at h
    obtain ⟨value, ⟨_, hvalue, -, rfl⟩, rfl, rfl⟩ := h
    obtain ⟨hmem, hid⟩ := mem_of_readinessFactOf hfact
    obtain ⟨-, -, -, -, -, -, hfields⟩ := storedProjection_eq_ok.mp hvalue
    exact Or.inl ⟨fact, hmem, hid, rfl, rfl, hfields⟩
  | none =>
    simp only [hfact, bind_eq_ok, exists_unit, pure_eq_ok, Prod.mk.injEq] at h
    obtain ⟨-, -, _, hrows, rfl, rfl⟩ := h
    exact Or.inr ⟨rfl, rfl, written_of_publishRows hrows⟩

/-- The payload of a snapshot is about its Batch and its version, and shows what it waits for. -/
theorem readinessPayload_eq_ok {snapshot : BatchFinalizationReadinessSnapshot}
    {payload : ReadinessPayload} (h : readinessPayload snapshot = .ok payload) :
    payload.batchId = snapshot.batchId ∧
      payload.sourceBatchVersion = snapshot.sourceBatchVersion ∧
      payload.digest = snapshot.readinessDigest ∧
      (snapshot.reason = .ready ↔
        payload.pendingRetryIntents = [] ∧ payload.attemptCreationOpportunities = []) := by
  have hdigest : payload.digest = snapshot.readinessDigest := by
    rw [readinessDigest_eq, h]
    rfl
  simp only [readinessPayload, bind_eq_ok, pure_eq_ok] at h
  obtain ⟨_, -, _, -, intents, hintents, rfl⟩ := h
  refine ⟨rfl, rfl, hdigest, ?_⟩
  have hlength := (collect_eq_ok.mp hintents).length_eq
  have hempty : snapshot.pendingRetryIntents = [] ↔ intents = [] := by
    rw [← List.length_eq_zero_iff, hlength, List.length_eq_zero_iff]
  simp only [BatchFinalizationReadinessSnapshot.reason, ← hempty]
  by_cases hintent : snapshot.pendingRetryIntents = []
  · by_cases hopportunity : snapshot.attemptCreationOpportunities = []
    · simp [hintent, hopportunity]
    · simp [hintent, hopportunity]
  · simp [hintent]

section
variable (hw : Written p s s')
include hw

theorem batches_of_ne (hne : batchId ≠ p.projection.batchId) :
    s'.batches batchId = s.batches batchId := by
  obtain ⟨_, -, -, -, hbatches⟩ := hw.batch
  rw [hbatches, Function.update_of_ne hne]

/-- The fact that was written is shown. -/
theorem shown_of_written (hf : FactOf p fact) : fact.ShownIn s' ∧
    fact.payload.batchId = p.projection.batchId ∧ p.projection.toFields = fact.projection := by
  obtain ⟨hready, hbatchId, hversion, hlocked, hbatchVersion, hstate, hdigest⟩ := p.bound
  obtain ⟨hid, hsource, hpayload, hwaits⟩ := readinessPayload_eq_ok hf.payload
  have hfields : p.projection.toFields = fact.projection := by
    rw [hlocked] at hbatchVersion
    rw [ReadinessFactRow.projection, hid, hsource, hf.batchVersion, hf.readinessDigest,
      ← hbatchVersion, ← hbatchId, ← hversion, ← hstate]
  refine ⟨⟨?_, hwaits.mp hready, ?_, ?_, ?_⟩, hid.trans hbatchId.symm, hfields⟩
  · rw [hpayload, hf.readinessDigest, hdigest]
  · rw [hf.batchVersion, hsource]
  · obtain ⟨row, -, -, hrow, hbatches⟩ := hw.batch
    have hstored := congrFun hbatches p.projection.batchId
    rw [Function.update_self, hbatchId, ← hid] at hstored
    refine ⟨_, hstored, congrArg some hf.ref.symm, Or.inl ⟨rfl, ?_⟩⟩
    show row.version + 1 = _
    rw [hrow, hlocked, hf.batchVersion]
  · rw [← hfields]
    exact p.projection.accepted

/-- A running Batch has no stored basis. -/
theorem basis_of_written {stored : BatchBasisRow} (hs : stored.ShownIn s) :
    stored.ShownIn s' where
  digest := hs.digest
  batch := by
    obtain ⟨batch, hbatch, hstate, hshown⟩ := hs.batch
    obtain ⟨row, hrow, hrunning, -⟩ := hw.batch
    by_cases hid : stored.basis.resolutionSet.batchId = p.projection.batchId
    · rw [hid] at hbatch
      cases hbatch.symm.trans hrow
      have hterminal := hs.projects
      simp only [BatchFinalizationProjection.Fields.postInit, then_eq_ok, Port.invalidIf_eq_ok,
        not_not, BatchBasisRow.projection, ← hstate, hrunning] at hterminal
      exact absurd hterminal.2.2.2 (by decide)
    · rw [batches_of_ne hw hid]
      exact ⟨batch, hbatch, hstate, hshown⟩
  projects := hs.projects

variable (hnone : s.readinessFactOf p.projection.batchId = none)
include hnone

/-- The other Batches show what they showed. -/
theorem shown_of_shown (hfact : fact ∈ s.readinessFacts) (hs : fact.ShownIn s) :
    fact.ShownIn s' where
  digest := hs.digest
  ready := hs.ready
  version := hs.version
  batch := by
    rw [batches_of_ne hw (batchId_ne_of_none hnone fact hfact), hw.batchBases]
    exact hs.batch
  projects := hs.projects

theorem evolves_of_written : Evolves s s' := by
  obtain ⟨new, hnew, hfacts⟩ := hw.fact
  obtain ⟨hshown, hid, -⟩ := shown_of_written hw hnew
  refine ⟨fun hs => ⟨?_, ?_, ?_, ?_, ?_, ?_, ?_⟩, ?_, ?_, ?_⟩
  · rw [hw.attempts]
    exact hs.attemptIds
  · rw [hw.runBases]
    exact hs.runKeys
  · rw [hfacts, List.map_append, List.map_singleton]
    refine List.Nodup.append hs.factKeys (List.nodup_singleton _) ?_
    intro batchId hold hfresh
    rw [List.mem_singleton] at hfresh
    obtain ⟨fact, hfact, hsame⟩ := List.mem_map.mp hold
    exact batchId_ne_of_none hnone fact hfact (hsame.trans (hfresh.trans hid))
  · rw [hw.batchBases]
    exact hs.batchKeys
  · rw [hw.runBases]
    exact fun row hrow => (hs.runs row hrow).of_same hw.runs hw.attempts
  · rw [hfacts]
    intro fact hfact
    rcases List.mem_append.mp hfact with hold | hfresh
    · exact shown_of_shown hw hnone hold (hs.facts fact hold)
    · rw [List.mem_singleton] at hfresh
      subst hfresh
      exact hshown
  · rw [hw.batchBases]
    exact fun stored hstored => basis_of_written hw (hs.batches stored hstored)
  · exact hw.runBases ▸ List.prefix_rfl
  · rw [hfacts]
    exact List.prefix_append _ _
  · exact hw.batchBases ▸ List.prefix_rfl

end

/-- Until the Batch is finalized, the lookup of its fact finds the projection. -/
theorem lookupStored_of_mem (hs : s.Consistent) (hfact : fact ∈ s.readinessFacts)
    (hopen : ∀ stored ∈ s.batchBases, stored.basis.resolutionSet.batchId ≠ fact.payload.batchId)
    (hfields : projection.toFields = fact.projection) :
    lookupStored s ⟨"qep.batch-finalization-readiness.v1", fact.payload.batchId,
      fact.payload.sourceBatchVersion⟩ = .ok (some projection) := by
  obtain ⟨row, hrow, href, hstate⟩ := (hs.facts fact hfact).batch
  rcases hstate with ⟨hfinalizing, hversion⟩ | ⟨stored, hstored, hsame⟩
  · have hprojection : storedProjection fact.payload.batchId fact row = .ok projection :=
      storedProjection_eq_ok.mpr ⟨(hs.facts fact hfact).digest, rfl, href,
        (hs.facts fact hfact).version, hfinalizing, hversion, hfields⟩
    have hfind : s.readinessFacts.find? (fun found =>
        found.payload.batchId = fact.payload.batchId ∧
          found.payload.sourceBatchVersion = fact.payload.sourceBatchVersion) = some fact :=
      Keyed.find_of_key hs.factKeys hfact ⟨rfl, rfl⟩ fun _ hfound => hfound.1
    simp only [lookupStored, hfind, hrow, hprojection, ok_bind, bind_eq_ok, exists_unit,
      Raises.port_eq_ok, Port.invalidIf_eq_ok, pure_eq_ok, ne_eq, not_true, not_false_eq_true,
      true_and]
  · exact absurd hsame (hopen stored hstored)

/-- What the lookup finds is stored. -/
theorem mem_of_lookupStored {scope : IdentityScope}
    (h : lookupStored s scope = .ok (some projection)) :
    ∃ fact ∈ s.readinessFacts, fact.payload.batchId = scope.aggregateId ∧
      projection.toFields = fact.projection := by
  simp only [lookupStored, bind_eq_ok, exists_unit] at h
  obtain ⟨-, h⟩ := h
  split at h
  · rename_i fact row hfind hrow
    have hkey := List.find?_some hfind
    rw [decide_eq_true_iff] at hkey
    simp only [bind_eq_ok, pure_eq_ok, Option.some.injEq, storedProjection_eq_ok] at h
    obtain ⟨_, ⟨-, -, -, -, -, -, hfields⟩, rfl⟩ := h
    exact ⟨fact, List.mem_of_find?_eq_some hfind, hkey.1, hfields⟩
  · cases h

end PostgresBatchReadiness

namespace BeginBatchFinalization
open PostgresBatchReadiness Handler

variable {candidate authority : BatchFinalizationReadinessAuthority}
  {command : BeginBatchFinalizationCommand} {p : BatchFinalizationReadinessPublication}
  {r : ReplayResult BatchFinalizationReadinessProjection} {fact : ReadinessFactRow}
  {winner : BatchFinalizationReadinessProjection}
  {steps : List (FinalizationTables × FinalizationTables)}

/-- The projection is of the stored fact of the Batch. -/
def Stored (command : BeginBatchFinalizationCommand) (p : BatchFinalizationReadinessProjection)
    (s : FinalizationTables) : Prop :=
  ∃ fact ∈ s.readinessFacts, fact.payload.batchId = command.batchId ∧
    p.toFields = fact.projection

/-- The Batch has not started to finalize. -/
def Vacant (command : BeginBatchFinalizationCommand) (s : FinalizationTables) : Prop :=
  s.readinessFactOf command.batchId = none

/-- The first publication. -/
def Made (command : BeginBatchFinalizationCommand) (s : FinalizationTables)
    (p : BatchFinalizationReadinessProjection) (s' : FinalizationTables) : Prop :=
  Vacant command s ∧ Stored command p s'

theorem requireReadinessAuthority_eq_ok {batchId : Str}
    (h : requireReadinessAuthority reads candidate s batchId = .ok authority) :
    authority = candidate ∧ ∃ row, requireLocked reads candidate s batchId = .ok row := by
  simp only [requireReadinessAuthority, bind_eq_ok, pure_eq_ok] at h
  obtain ⟨row, hrow, rfl⟩ := h
  exact ⟨rfl, row, hrow⟩

theorem prepared {locked : BatchFinalizationReadinessMutationSnapshot}
    (h : prepare command authority locked = .ok p) : p.authority = authority := by
  simp only [prepare, bind_eq_ok, exists_unit, BatchFinalizationReadinessPublication.new_eq_ok]
    at h
  obtain ⟨-, -, _, -, _, -, _, -, hp⟩ := h
  exact congrArg (·.authority) hp

/-- The publication of the handler repeats the stored fact, or stores the first one. -/
theorem stores_of_publish (hid : p.authority.snapshot.batchId = command.batchId)
    (h : publishReadiness reads candidate s p = .ok (r, s')) :
    Stores (Stored command) (Made command) s r s' := by
  obtain ⟨value, replayed⟩ := r
  have hid : p.projection.batchId = command.batchId := p.bound.batchId.trans hid
  rcases publishReadiness_eq_ok h with ⟨fact, hfact, hsame, rfl, rfl, hfields⟩ | ⟨hnone, hr, hw⟩
  · exact .repeated ⟨fact, hfact, hsame.trans hid, hfields⟩
  · cases hr
    obtain ⟨new, hnew, hfacts⟩ := hw.fact
    obtain ⟨-, hsame, hfields⟩ := shown_of_written hw hnew
    rw [hid] at hnone
    exact .first ⟨hnone, new, hfacts ▸ List.mem_concat_self, hsame.trans hid, hfields⟩

theorem stored_of_evolves {v : BatchFinalizationReadinessProjection} (h : Evolves s s')
    (hheld : Stored command v s) : Stored command v s' := by
  obtain ⟨fact, hfact, hheld⟩ := hheld
  exact ⟨fact, h.readinessFacts.subset hfact, hheld⟩

theorem lawful (reads : BatchSourceReads) (candidate : BatchFinalizationReadinessAuthority)
    (command : BeginBatchFinalizationCommand) :
    (handler (gateway reads candidate) command).Lawful Evolves FinalizationTables.Consistent
      (fun a _ => a.snapshot.batchId = command.batchId) (fun _ _ _ => True) (Stored command)
      (Stored command) (Made command) where
  quiet := Prog.quiet_read _
  inv h hs := h.consistent hs
  holds h _ := stored_of_evolves h
  shows h _ := stored_of_evolves h
  made h := h.2
  stays _ hgranted := hgranted
  locked _ _ := trivial
  granted h _ := by
    obtain ⟨t, -, -, -, hlook⟩ := h.of_read
    obtain ⟨rfl, row, hrow⟩ := requireReadinessAuthority_eq_ok hlook
    exact (requireLocked_row hrow).1
  lookup := by
    intro authority v s hid _ hlookup
    obtain ⟨fact, hfact, hsame, hfields⟩ := mem_of_lookupStored hlookup
    exact ⟨fact, hfact, hsame.trans hid, hfields⟩
  lock _ _ _ := trivial
  publish := by
    intro authority snapshot p s r s' hid _ _ hprepare hpublish
    constructor
    · rcases publishReadiness_eq_ok hpublish with ⟨fact, -, -, rfl, -, -⟩ | ⟨hnone, -, hw⟩
      · exact refl_of Evolves s'
      · exact evolves_of_written hw hnone
    · rw [← prepared hprepare] at hid
      exact stores_of_publish hid hpublish

theorem replay_eq_ok {stored : BatchFinalizationReadinessProjection}
    {result : BeginBatchFinalizationResult} : replay authority stored = .ok result ↔
      authority.snapshot.readinessDigest = .ok stored.readinessDigest ∧
        result = ⟨some stored, true, .ready⟩ := by
  simp only [replay, bind_eq_ok, exists_unit, Raises.domain_eq_ok, Raises.refuseIf_eq_ok,
    pure_eq_ok, ne_eq, not_not]
  constructor
  · rintro ⟨_, hdigest, rfl, rfl⟩
    exact ⟨hdigest, rfl⟩
  · rintro ⟨hdigest, rfl⟩
    exact ⟨_, hdigest, rfl, rfl⟩

/-- The authority over a stored fact is for its snapshot, which was ready. -/
theorem authority_of_stored (hs : s.Consistent) (hfact : fact ∈ s.readinessFacts)
    (hid : fact.payload.batchId = command.batchId)
    (h : requireReadinessAuthority reads candidate s command.batchId = .ok authority) :
    notReady authority = none ∧ authority.identityScope =
      ⟨"qep.batch-finalization-readiness.v1", fact.payload.batchId,
        fact.payload.sourceBatchVersion⟩ := by
  obtain ⟨rfl, row, hrow⟩ := requireReadinessAuthority_eq_ok h
  obtain ⟨hbatch, hrow, hstate⟩ := requireLocked_row hrow
  obtain ⟨shown, hshown, href, -⟩ := (hs.facts fact hfact).batch
  rw [← hid] at hbatch hrow
  cases hrow.symm.trans hshown
  have hfind : s.referencedFact authority.snapshot.batchId row = some fact := by
    rw [hbatch]
    exact Keyed.find_of_key hs.factKeys hfact ⟨href.symm, rfl⟩ fun _ hfound => hfound.2
  simp only [requireSourceState, hfind, validateStoredFactBinding, bind_eq_ok, exists_unit,
    Raises.domain_eq_ok, Raises.conflictIf_eq_ok, not_or, ne_eq, not_not] at hstate
  obtain ⟨_, -, -, payload, hpayload, hsame⟩ := hstate
  rw [← hsame] at hpayload
  obtain ⟨hpayloadId, hsource, -, hwaits⟩ := readinessPayload_eq_ok hpayload
  constructor
  · rw [notReady, hwaits.mpr (hs.facts fact hfact).ready]
    rfl
  · rw [BatchFinalizationReadinessAuthority.identityScope, ← hpayloadId, ← hsource]

theorem notReady_eq_some {answer : BeginBatchFinalizationResult}
    (h : notReady authority = some answer) : ∃ reason, answer = ⟨none, false, reason⟩ := by
  unfold notReady at h
  split at h
  · exact ⟨_, (Option.some.inj h).symm⟩
  · cases h

/-- An execution that finds its Batch not ready does so while no fact of it is stored. -/
theorem fresh_of_notReady {answer : BeginBatchFinalizationResult} (hs : s.Consistent)
    (hnone : answer.projection = none)
    (h : Thread Evolves (execute (gateway reads candidate) command) s steps
      (.done (.ok answer)) s') :
    ∃ t, steps = [(t, t)] ∧ Vacant command t := by
  have hl := lawful reads candidate command
  rcases course_of_execute (hl.authorized_guarantees hs) hl.quiet h with
    ⟨⟨e, he⟩, -⟩ | ⟨a, first, second, t, rfl, -, hrequire, hcourse⟩
  · cases he
  · generalize hresult : (Except.ok answer : Raises _) = result at hcourse
    cases hcourse with
    | answered _ hanswer =>
      obtain ⟨u, hsu, -, rfl, hlook⟩ := hrequire.of_read
      refine ⟨u, rfl, ?_⟩
      cases hfact : u.readinessFactOf command.batchId with
      | none => exact hfact
      | some fact =>
        obtain ⟨hmem, hid⟩ := mem_of_readinessFactOf hfact
        have hready := (authority_of_stored (hsu.consistent hs) hmem hid hlook).1
        cases hready.symm.trans hanswer
    | stored _ _ hlookup =>
      obtain ⟨-, rfl⟩ := replay_eq_ok.mp hresult.symm
      cases hnone
    | published =>
      cases hresult
      cases hnone
    | unread => cases hresult
    | refused => cases hresult

/-- Once a fact is stored, and until its Batch is finalized, an execution with its digest that gets
its authority answers with it. -/
theorem replays {result : Raises BeginBatchFinalizationResult} (hs : s.Consistent)
    (hfact : fact ∈ s.readinessFacts) (hid : fact.payload.batchId = command.batchId)
    (hfields : winner.toFields = fact.projection)
    (hdigest : candidate.snapshot.readinessDigest = .ok fact.readinessDigest)
    (hopen : ∀ stored ∈ s'.batchBases, stored.basis.resolutionSet.batchId ≠ command.batchId)
    (hauthority : ∀ t rest, steps = (t, t) :: rest → ∃ authority,
      requireReadinessAuthority reads candidate t command.batchId = .ok authority)
    (h : Thread Evolves (execute (gateway reads candidate) command) s steps (.done result) s') :
    result = .ok ⟨some winner, true, .ready⟩ ∧ Unchanged steps := by
  have hrequire : ∀ first r t, first <+: steps →
      Thread Evolves (handler (gateway reads candidate) command).require s first (.done r) t →
      ∃ a, r = .ok a ∧ a = candidate ∧ notReady a = none ∧ a.identityScope =
        ⟨"qep.batch-finalization-readiness.v1", fact.payload.batchId,
          fact.payload.sourceBatchVersion⟩ := by
    intro first r t hprefix hthread
    obtain ⟨u, hsu, -, rfl, hlook⟩ := hthread.of_read
    obtain ⟨rest, rfl⟩ := hprefix
    obtain ⟨authority, hgranted⟩ := hauthority u rest rfl
    exact ⟨authority, hlook.symm.trans hgranted, (requireReadinessAuthority_eq_ok hgranted).1,
      authority_of_stored (hsu.consistent hs) (hsu.readinessFacts.subset hfact) hid hgranted⟩
  have hfound : ∀ (a : BatchFinalizationReadinessAuthority) t,
      (a = candidate ∧ notReady a = none ∧ a.identityScope =
        ⟨"qep.batch-finalization-readiness.v1", fact.payload.batchId,
          fact.payload.sourceBatchVersion⟩) → Evolves s t → Evolves t s' →
      (handler (gateway reads candidate) command).lookup a t = .ok (some winner) := by
    rintro a t ⟨-, -, hscope⟩ hst hts
    show lookupStored t a.identityScope = _
    rw [hscope]
    refine lookupStored_of_mem (hst.consistent hs) (hst.readinessFacts.subset hfact) ?_ hfields
    rw [hid]
    exact fun stored hstored => hopen stored (hts.batchBases.subset hstored)
  obtain ⟨a, ⟨rfl, -⟩, hresult, hunchanged⟩ :=
    (lawful reads candidate command).replays hs (fun _ ha => ha.2.1) hrequire hfound h
  have hsame : winner.readinessDigest = fact.readinessDigest :=
    congrArg (·.readinessDigest) hfields
  exact ⟨hresult.trans (replay_eq_ok.mpr ⟨hsame ▸ hdigest, rfl⟩), hunchanged⟩

end BeginBatchFinalization

end QaRunner
