import QaRunner.Adapters.RunPublication

/-! The publication of a Batch basis: what it writes, that the tables stay consistent, and what a
lookup finds afterwards. -/
namespace QaRunner
open Guarded Interleaving PublishOnce

theorem BatchFinalizationPublication.new_eq_ok {f : BatchFinalizationPublication.Fields}
    {p : BatchFinalizationPublication} : new f = .ok p ↔ p.toFields = f := by
  simp only [new, construct_eq_ok]
  constructor
  · rintro ⟨_, rfl⟩
    rfl
  · rintro rfl
    exact ⟨p.accepted, rfl⟩

/-- The parts of a publication are of one Batch. -/
structure BatchFinalizationPublication.Bound (p : BatchFinalizationPublication) : Prop where
  authorityBatch : p.authority.batchId = p.basis.resolutionSet.batchId
  authorityVersion : p.authority.sourceBatchVersion = p.basis.resolutionSet.sourceBatchVersion
  batchId : p.projection.batchId = p.basis.resolutionSet.batchId
  version : p.projection.sourceBatchVersion = p.basis.resolutionSet.sourceBatchVersion
  locked : p.expectedSnapshot.batchVersion = p.basis.resolutionSet.sourceBatchVersion
  batchVersion : p.projection.batchVersion = p.expectedSnapshot.batchVersion + 1
  outcome : p.projection.outcome = p.basis.batchOutcome
  digest : p.basis.basisDigest = .ok p.projection.basisDigest

theorem BatchFinalizationPublication.bound (p : BatchFinalizationPublication) : p.Bound := by
  have h := p.accepted
  simp only [Fields.postInit, bind_eq_ok, Raises.port_eq_ok, Port.invalidIf_eq_ok,
    Bool.not_eq_true] at h
  obtain ⟨_, hmismatch, rfl⟩ := h
  simp only [Fields.bindingMismatch, anyOf_eq_ok_false, List.forall_mem_cons, Except.ok.injEq,
    decide_eq_false_iff_not, not_or, not_not, ne_eq, differs_eq_ok_false, Raises.domain_eq_ok]
    at hmismatch
  obtain ⟨⟨hbatch, hversion⟩, -, ⟨-, hsource, hprojection, hprojectionVersion, hbatchVersion,
    houtcome⟩, hdigest, -⟩ := hmismatch
  have hlocked := p.expectedSnapshot.accepted
  simp only [BatchFinalizationMutationSnapshot.Fields.postInit, then_eq_ok,
    Port.invalidIf_eq_ok, ne_eq, not_not] at hlocked
  have hlockedVersion := hlocked.2.2.2.2
  rw [hsource] at hlockedVersion
  exact ⟨hbatch, hversion, hprojection, hprojectionVersion, hlockedVersion.trans hversion,
    hbatchVersion, houtcome, hdigest⟩

/-- The published projection is the one of the basis, once stored. -/
theorem BatchFinalizationPublication.projection_eq (p : BatchFinalizationPublication)
    (ref : Option Str) : p.projection.toFields =
      BatchBasisRow.projection ⟨p.basis, p.projection.basisDigest, ref⟩ := by
  obtain ⟨-, -, hbatchId, hversion, hlocked, hbatchVersion, houtcome, -⟩ := p.bound
  rw [hlocked] at hbatchVersion
  rw [BatchBasisRow.projection, ← hbatchId, ← hversion, ← houtcome]
  rw [← hversion] at hbatchVersion
  rw [← hbatchVersion]

variable {s s' : FinalizationTables} {reads : BatchSourceReads}

namespace PostgresBatchFinalization

variable {candidate : FinalizeBatchAuthority} {p : BatchFinalizationPublication}
  {stored : BatchBasisRow} {row locked : BatchRow} {projection : BatchFinalizationProjection}
  {r : ReplayResult BatchFinalizationProjection} {batchId : Str}

theorem mem_of_batchBasisOf (h : s.batchBasisOf batchId = some stored) :
    stored ∈ s.batchBases ∧ stored.basis.resolutionSet.batchId = batchId := Keyed.find_some h

theorem batchId_ne_of_none (h : s.batchBasisOf batchId = none) :
    ∀ stored ∈ s.batchBases, stored.basis.resolutionSet.batchId ≠ batchId := Keyed.find_none h

theorem requireLocked_row (h : requireLocked reads candidate s batchId = .ok row) :
    candidate.batchId = batchId ∧ s.batches batchId = some row ∧
      requireSourceState candidate s row = .ok () := by
  simp only [requireLocked, bind_eq_ok, exists_unit, raiseIf_eq_ok, need_eq_ok, pure_eq_ok,
    ne_eq, not_not] at h
  obtain ⟨hbatch, _, hrow, -, hstate, -, _, -, rfl⟩ := h
  exact ⟨hbatch, hrow, hstate⟩

/-- The stored basis, while the Batch shows it. -/
theorem storedProjection_eq_ok (hid : stored.basis.resolutionSet.batchId = batchId) :
    storedProjection batchId stored row = .ok projection ↔
      stored.basis.basisDigest = .ok stored.basisDigest ∧
      stored.readinessRef = row.finalizationReadinessRef ∧ row.state = stored.basis.batchOutcome ∧
      row.version = stored.basis.resolutionSet.sourceBatchVersion + 1 ∧
      projection.toFields = stored.projection := by
  subst hid
  simp only [storedProjection, bind_eq_ok, exists_unit, Raises.domain_eq_ok,
    Raises.conflictIf_eq_ok, Raises.port_eq_ok, BatchFinalizationProjection.new_eq_ok, not_or,
    ne_eq, not_not]
  constructor
  · rintro ⟨_, hdigest, ⟨rfl, href, hstate, hversion⟩, hprojection⟩
    refine ⟨hdigest, href, hstate, hversion, ?_⟩
    rw [hprojection, hversion]
    rfl
  · rintro ⟨hdigest, href, hstate, hversion, hprojection⟩
    refine ⟨_, hdigest, ⟨rfl, href, hstate, hversion⟩, ?_⟩
    rw [hprojection, hversion]
    rfl

/-- What a first publication writes besides its records. -/
structure Written (p : BatchFinalizationPublication) (s s' : FinalizationTables) : Prop where
  runBases : s'.runBases = s.runBases
  readinessFacts : s'.readinessFacts = s.readinessFacts
  runs : s'.runs = s.runs
  attempts : s'.attempts = s.attempts
  batch : ∃ row, s.batches p.projection.batchId = some row ∧
    row.version = p.expectedSnapshot.batchVersion ∧
    s'.batchBases = s.batchBases ++
      [⟨p.basis, p.projection.basisDigest, row.finalizationReadinessRef⟩] ∧
    s'.batches = Function.update s.batches p.projection.batchId
      (some { row with state := p.projection.outcome, version := row.version + 1 })

theorem written_of_publishRows (hlocked : s.batches p.projection.batchId = some locked)
    (h : publishRows s p locked = .ok s') : Written p s s' := by
  simp only [publishRows, publishBatchProjection, bind_eq_ok, exists_unit, Raises.domain_eq_ok,
    need_eq_ok, raiseIf_eq_ok, pure_eq_ok, not_or, ne_eq, not_not] at h
  obtain ⟨digest, hdigest, _, ⟨row, hrow, ⟨-, hversion, -⟩, rfl⟩, _, -, rfl⟩ := h
  have hsame : p.projection.basisDigest = digest :=
    Except.ok.inj (p.bound.digest.symm.trans hdigest)
  cases hlocked.symm.trans hrow
  exact ⟨rfl, rfl, rfl, rfl, locked, hrow, hversion, by rw [hsame], rfl⟩

/-- A publication repeats the stored basis of its Batch, or writes the first one. -/
theorem publishFinalization_eq_ok (h : publishFinalization reads candidate s p = .ok (r, s')) :
    (∃ stored ∈ s.batchBases, stored.basis.resolutionSet.batchId = p.projection.batchId ∧
        s' = s ∧ r.replayed = true ∧ r.value.toFields = stored.projection) ∨
      (s.batchBasisOf p.projection.batchId = none ∧ r = ⟨p.projection, false⟩ ∧
        Written p s s') := by
  simp only [publishFinalization, bind_eq_ok, exists_unit, Raises.conflictIf_eq_ok] at h
  obtain ⟨locked, hlocked, -, h⟩ := h
  cases hstored : s.batchBasisOf p.projection.batchId with
  | some stored =>
    simp only [hstored, replayStored, bind_eq_ok, exists_unit, pure_eq_ok, Prod.mk.injEq] at h
    obtain ⟨value, ⟨_, hvalue, _, -, -, rfl⟩, rfl, rfl⟩ := h
    obtain ⟨hmem, hid⟩ := mem_of_batchBasisOf hstored
    have hfields := ((storedProjection_eq_ok hid).mp hvalue).2.2.2.2
    exact Or.inl ⟨stored, hmem, hid, rfl, rfl, hfields⟩
  | none =>
    simp only [hstored, bind_eq_ok, exists_unit, pure_eq_ok, Prod.mk.injEq] at h
    obtain ⟨_, -, -, _, hrows, rfl, rfl⟩ := h
    exact Or.inr ⟨rfl, rfl, written_of_publishRows (requireLocked_row hlocked).2.1 hrows⟩

section
variable (hw : Written p s s') (hnone : s.batchBasisOf p.projection.batchId = none)
include hw

/-- The basis that was written is shown. -/
theorem exists_shown_of_written : ∃ stored : BatchBasisRow, stored.ShownIn s' ∧
    stored.basis = p.basis ∧ p.projection.toFields = stored.projection ∧
    s'.batchBases = s.batchBases ++ [stored] := by
  obtain ⟨row, hrow, hversion, hbases, hbatches⟩ := hw.batch
  have hstored := congrFun hbatches p.projection.batchId
  rw [Function.update_self, p.bound.batchId] at hstored
  have hfields := p.projection_eq row.finalizationReadinessRef
  refine ⟨⟨p.basis, p.projection.basisDigest, row.finalizationReadinessRef⟩, ⟨p.bound.digest,
    ⟨_, hstored, p.bound.outcome, ?_, rfl⟩, ?_⟩, rfl, hfields, hbases⟩
  · show row.version + 1 = _
    rw [hversion, p.bound.locked]
  · rw [← hfields]
    exact p.projection.accepted

theorem batches_of_ne {batchId : Str} (hne : batchId ≠ p.projection.batchId) :
    s'.batches batchId = s.batches batchId := by
  obtain ⟨_, -, -, -, hbatches⟩ := hw.batch
  rw [hbatches, Function.update_of_ne hne]

include hnone

/-- The other Batches show what they showed. -/
theorem shown_of_shown (hstored : stored ∈ s.batchBases) (hs : stored.ShownIn s) :
    stored.ShownIn s' where
  digest := hs.digest
  batch := by
    rw [batches_of_ne hw (batchId_ne_of_none hnone stored hstored)]
    exact hs.batch
  projects := hs.projects

omit hnone in
/-- The fact of the finalized Batch stays the one it points at. -/
theorem fact_of_written {fact : ReadinessFactRow} (hs : fact.ShownIn s) : fact.ShownIn s' where
  digest := hs.digest
  ready := hs.ready
  version := hs.version
  batch := by
    obtain ⟨batch, hbatch, href, hstate⟩ := hs.batch
    obtain ⟨row, hrow, -, hbases, hbatches⟩ := hw.batch
    by_cases hid : fact.payload.batchId = p.projection.batchId
    · rw [hid] at hbatch ⊢
      cases hbatch.symm.trans hrow
      have hstored := congrFun hbatches p.projection.batchId
      rw [Function.update_self] at hstored
      exact ⟨_, hstored, href, Or.inr ⟨_, hbases ▸ List.mem_concat_self,
        p.bound.batchId.symm⟩⟩
    · rw [batches_of_ne hw hid]
      refine ⟨batch, hbatch, href, hstate.imp_right ?_⟩
      rintro ⟨stored, hstored, hsame⟩
      rw [hbases]
      exact ⟨stored, List.mem_append_left _ hstored, hsame⟩
  projects := hs.projects

theorem evolves_of_written : Evolves s s' := by
  obtain ⟨new, hnew, hbasis, -, hbases⟩ := exists_shown_of_written hw
  refine ⟨fun hs => ⟨?_, ?_, ?_, ?_, ?_, ?_, ?_⟩, ?_, ?_, ?_⟩
  · rw [hw.attempts]
    exact hs.attemptIds
  · rw [hw.runBases]
    exact hs.runKeys
  · rw [hw.readinessFacts]
    exact hs.factKeys
  · rw [hbases, List.map_append, List.map_singleton]
    refine List.Nodup.append hs.batchKeys (List.nodup_singleton _) ?_
    intro batchId hold hfresh
    rw [List.mem_singleton] at hfresh
    obtain ⟨stored, hstored, hsame⟩ := List.mem_map.mp hold
    refine batchId_ne_of_none hnone stored hstored ?_
    rw [hsame, hfresh, hbasis, p.bound.batchId]
  · rw [hw.runBases]
    exact fun row hrow => (hs.runs row hrow).of_same hw.runs hw.attempts
  · rw [hw.readinessFacts]
    exact fun fact hfact => fact_of_written hw (hs.facts fact hfact)
  · rw [hbases]
    intro stored hstored
    rcases List.mem_append.mp hstored with hold | hfresh
    · exact shown_of_shown hw hnone hold (hs.batches stored hold)
    · rw [List.mem_singleton] at hfresh
      subst hfresh
      exact hnew
  · exact hw.runBases ▸ List.prefix_rfl
  · exact hw.readinessFacts ▸ List.prefix_rfl
  · rw [hbases]
    exact List.prefix_append _ _

end

/-- The lookup of a stored basis finds its projection. -/
theorem lookupStored_of_mem (hs : s.Consistent) (hstored : stored ∈ s.batchBases)
    (hfields : projection.toFields = stored.projection) :
    lookupStored s ⟨"qep.batch-finalization-basis.v1", stored.basis.resolutionSet.batchId,
      stored.basis.resolutionSet.sourceBatchVersion⟩ = .ok (some projection) := by
  obtain ⟨row, hrow, hstate, hversion, href⟩ := (hs.batches stored hstored).batch
  have hprojection : storedProjection stored.basis.resolutionSet.batchId stored row =
      .ok projection :=
    (storedProjection_eq_ok rfl).mpr
      ⟨(hs.batches stored hstored).digest, href.symm, hstate, hversion, hfields⟩
  have hfind : s.batchBases.find? (fun found =>
      found.basis.resolutionSet.batchId = stored.basis.resolutionSet.batchId ∧
        found.basis.resolutionSet.sourceBatchVersion =
          stored.basis.resolutionSet.sourceBatchVersion) = some stored :=
    Keyed.find_of_key hs.batchKeys hstored ⟨rfl, rfl⟩ fun _ hfound => hfound.1
  simp only [lookupStored, hfind, hrow, hprojection, ok_bind, bind_eq_ok, exists_unit,
    Raises.port_eq_ok, Port.invalidIf_eq_ok, pure_eq_ok, ne_eq, not_true, not_false_eq_true,
    true_and]

/-- What the lookup finds is stored. -/
theorem mem_of_lookupStored {scope : IdentityScope}
    (h : lookupStored s scope = .ok (some projection)) :
    ∃ stored ∈ s.batchBases, stored.basis.resolutionSet.batchId = scope.aggregateId ∧
      projection.toFields = stored.projection := by
  simp only [lookupStored, bind_eq_ok, exists_unit] at h
  obtain ⟨-, h⟩ := h
  split at h
  · rename_i stored row hfind hrow
    have hkey := List.find?_some hfind
    rw [decide_eq_true_iff] at hkey
    simp only [bind_eq_ok, pure_eq_ok, Option.some.injEq, storedProjection_eq_ok hkey.1] at h
    obtain ⟨_, ⟨-, -, -, -, hfields⟩, rfl⟩ := h
    exact ⟨stored, List.mem_of_find?_eq_some hfind, hkey.1, hfields⟩
  · cases h

end PostgresBatchFinalization

namespace FinalizeBatch
open PostgresBatchFinalization Handler

variable {candidate authority : FinalizeBatchAuthority} {command : FinalizeBatchCommand}
  {p : BatchFinalizationPublication} {r : ReplayResult BatchFinalizationProjection}

/-- The projection is of the stored basis of the Batch. -/
def Stored (command : FinalizeBatchCommand) (p : BatchFinalizationProjection)
    (s : FinalizationTables) : Prop :=
  ∃ stored ∈ s.batchBases, stored.basis.resolutionSet.batchId = batchId command ∧
    p.toFields = stored.projection

/-- The Batch has no stored basis yet. -/
def Vacant (command : FinalizeBatchCommand) (s : FinalizationTables) : Prop :=
  s.batchBasisOf (batchId command) = none

/-- The first publication. -/
def Made (command : FinalizeBatchCommand) (s : FinalizationTables)
    (p : BatchFinalizationProjection) (s' : FinalizationTables) : Prop :=
  Vacant command s ∧ Stored command p s'

/-- The authority with which the handler goes on. -/
def authorized (reads : BatchSourceReads) (candidate : FinalizeBatchAuthority)
    (command : FinalizeBatchCommand) (s : FinalizationTables) : Raises FinalizeBatchAuthority := do
  let authority ← requireFinalizationAuthority reads candidate s (batchId command)
  requireSource command authority
  return authority

theorem authorized_eq_ok (h : authorized reads candidate command s = .ok authority) :
    authority = candidate ∧ ∃ row, requireLocked reads candidate s (batchId command) = .ok row := by
  simp only [authorized, requireFinalizationAuthority, bind_eq_ok, exists_unit, pure_eq_ok] at h
  obtain ⟨_, ⟨row, hrow, rfl⟩, -, rfl⟩ := h
  exact ⟨rfl, row, hrow⟩

theorem require_eq (reads : BatchSourceReads) (candidate : FinalizeBatchAuthority)
    (command : FinalizeBatchCommand) : (handler (gateway reads candidate) command).require =
      Prog.read (authorized reads candidate command) := Prog.read_checked _ _

theorem prepared {snapshot : BatchFinalizationMutationSnapshot}
    (h : prepare command authority snapshot = .ok p) : p.basis = command.candidateBasis := by
  simp only [prepare, bind_eq_ok, exists_unit, BatchFinalizationPublication.new_eq_ok] at h
  obtain ⟨-, -, _, -, _, -, _, -, hp⟩ := h
  exact congrArg (·.basis) hp

/-- The publication of the handler repeats the stored basis, or stores the first one. -/
theorem stores_of_publish (hp : p.basis = command.candidateBasis)
    (h : publishFinalization reads candidate s p = .ok (r, s')) :
    Stores (Stored command) (Made command) s r s' := by
  obtain ⟨value, replayed⟩ := r
  have hid : p.projection.batchId = batchId command := by
    rw [p.bound.batchId, hp]
    rfl
  rcases publishFinalization_eq_ok h with ⟨stored, hstored, hsame, rfl, rfl, hfields⟩ |
    ⟨hnone, hr, hw⟩
  · exact .repeated ⟨stored, hstored, hsame.trans hid, hfields⟩
  · cases hr
    obtain ⟨new, -, hbasis, hfields, hbases⟩ := exists_shown_of_written hw
    rw [hid] at hnone
    refine .first ⟨hnone, new, hbases ▸ List.mem_concat_self, ?_, hfields⟩
    rw [hbasis, hp]
    rfl

theorem stored_of_evolves {v : BatchFinalizationProjection} (h : Evolves s s')
    (hheld : Stored command v s) : Stored command v s' := by
  obtain ⟨stored, hstored, hheld⟩ := hheld
  exact ⟨stored, h.batchBases.subset hstored, hheld⟩

theorem lawful (reads : BatchSourceReads) (candidate : FinalizeBatchAuthority)
    (command : FinalizeBatchCommand) : (handler (gateway reads candidate) command).Lawful Evolves
      FinalizationTables.Consistent (fun a _ => a.batchId = batchId command) (fun _ _ _ => True)
      (Stored command) (Stored command) (Made command) where
  quiet := by
    rw [require_eq]
    exact Prog.quiet_read _
  inv h hs := h.consistent hs
  holds h _ := stored_of_evolves h
  shows h _ := stored_of_evolves h
  made h := h.2
  stays _ hgranted := hgranted
  locked _ _ := trivial
  granted h _ := by
    rw [require_eq] at h
    obtain ⟨t, -, -, -, hlook⟩ := h.of_read
    obtain ⟨rfl, row, hrow⟩ := authorized_eq_ok hlook
    exact (requireLocked_row hrow).1
  lookup := by
    intro authority v s hid _ hlookup
    obtain ⟨stored, hstored, hsame, hfields⟩ := mem_of_lookupStored hlookup
    exact ⟨stored, hstored, hsame.trans hid, hfields⟩
  lock _ _ _ := trivial
  publish := by
    intro authority snapshot p s r s' _ _ _ hprepare hpublish
    refine ⟨?_, stores_of_publish (prepared hprepare) hpublish⟩
    rcases publishFinalization_eq_ok hpublish with ⟨stored, -, -, rfl, -, -⟩ | ⟨hnone, -, hw⟩
    · exact refl_of Evolves s'
    · exact evolves_of_written hw hnone

theorem replay_eq_ok {stored : BatchFinalizationProjection} {result : FinalizeBatchResult} :
    replay command stored = .ok result ↔
      command.candidateBasis.basisDigest = .ok stored.basisDigest ∧ result = ⟨stored, true⟩ := by
  simp only [replay, bind_eq_ok, exists_unit, Raises.domain_eq_ok, Raises.refuseIf_eq_ok,
    pure_eq_ok, ne_eq, not_not]
  constructor
  · rintro ⟨_, hdigest, rfl, rfl⟩
    exact ⟨hdigest, rfl⟩
  · rintro ⟨hdigest, rfl⟩
    exact ⟨_, hdigest, rfl, rfl⟩

/-- The authority for a finalized Batch is for the source of its stored basis. -/
theorem identityScope_of_stored {stored : BatchBasisRow} (hs : s.Consistent)
    (hstored : stored ∈ s.batchBases)
    (hid : stored.basis.resolutionSet.batchId = batchId command)
    (h : authorized reads candidate command s = .ok authority) :
    authority.identityScope = ⟨"qep.batch-finalization-basis.v1",
      stored.basis.resolutionSet.batchId, stored.basis.resolutionSet.sourceBatchVersion⟩ := by
  obtain ⟨rfl, row, hrow⟩ := authorized_eq_ok h
  obtain ⟨hbatch, -, hstate⟩ := requireLocked_row hrow
  rw [← hid] at hbatch
  have hfind : s.batchBasisOf authority.batchId = some stored := by
    rw [hbatch]
    exact Keyed.find_of_mem hs.batchKeys hstored
  simp only [requireSourceState, hfind, Raises.conflictIf_eq_ok, not_or, ne_eq, not_not] at hstate
  rw [FinalizeBatchAuthority.identityScope, hbatch, hstate.1]

/-- Once a basis is stored, an execution with its digest that gets its authority answers with it. -/
theorem replays {stored : BatchBasisRow} {winner : BatchFinalizationProjection}
    {steps : List (FinalizationTables × FinalizationTables)} {result : Raises FinalizeBatchResult}
    (hs : s.Consistent) (hstored : stored ∈ s.batchBases)
    (hid : stored.basis.resolutionSet.batchId = batchId command)
    (hfields : winner.toFields = stored.projection)
    (hdigest : command.candidateBasis.basisDigest = .ok stored.basisDigest)
    (hauthority : ∀ t rest, steps = (t, t) :: rest → ∃ authority,
      authorized reads candidate command t = .ok authority)
    (h : Thread Evolves (execute (gateway reads candidate) command) s steps (.done result) s') :
    result = .ok ⟨winner, true⟩ ∧ Unchanged steps := by
  have hrequire : ∀ first r t, first <+: steps →
      Thread Evolves (handler (gateway reads candidate) command).require s first (.done r) t →
      ∃ a, r = .ok a ∧ a.identityScope = ⟨"qep.batch-finalization-basis.v1",
        stored.basis.resolutionSet.batchId, stored.basis.resolutionSet.sourceBatchVersion⟩ := by
    intro first r t hprefix hthread
    rw [require_eq] at hthread
    obtain ⟨u, hsu, -, rfl, hlook⟩ := hthread.of_read
    obtain ⟨rest, rfl⟩ := hprefix
    obtain ⟨authority, hgranted⟩ := hauthority u rest rfl
    exact ⟨authority, hlook.symm.trans hgranted, identityScope_of_stored (hsu.consistent hs)
      (hsu.batchBases.subset hstored) hid hgranted⟩
  have hfound : ∀ (a : FinalizeBatchAuthority) t, a.identityScope =
      ⟨"qep.batch-finalization-basis.v1", stored.basis.resolutionSet.batchId,
        stored.basis.resolutionSet.sourceBatchVersion⟩ → Evolves s t → Evolves t s' →
      (handler (gateway reads candidate) command).lookup a t = .ok (some winner) := by
    intro a t hscope hst _
    show lookupStored t a.identityScope = _
    rw [hscope]
    exact lookupStored_of_mem (hst.consistent hs) (hst.batchBases.subset hstored) hfields
  obtain ⟨a, -, hresult, hunchanged⟩ :=
    (lawful reads candidate command).replays hs (fun _ _ => rfl) hrequire hfound h
  have hsame : winner.basisDigest = stored.basisDigest := congrArg (·.basisDigest) hfields
  exact ⟨hresult.trans (replay_eq_ok.mpr ⟨hsame ▸ hdigest, rfl⟩), hunchanged⟩

end FinalizeBatch

end QaRunner
