import QaRunner.Adapters.FinalizationConsistency

/-! The publication of a Run basis: what it writes, that the tables stay consistent, and what a
lookup finds afterwards. -/
namespace QaRunner
open Guarded Interleaving PublishOnce

variable {s s' : FinalizationTables} {command : FinalizeRunCommand}
  {authority : FinalizeRunAuthority} {snapshot : RunFinalizationMutationSnapshot}
  {p : RunFinalizationPublication}

theorem RunFinalizationPublication.new_eq_ok {f : RunFinalizationPublication.Fields} :
    new f = .ok p ↔ p.toFields = f := by
  simp only [new, construct_eq_ok]
  constructor
  · rintro ⟨_, rfl⟩
    rfl
  · rintro rfl
    exact ⟨p.accepted, rfl⟩

/-- The parts of a publication are of one Run. -/
structure RunFinalizationPublication.Bound (p : RunFinalizationPublication) : Prop where
  runId : p.basis.runId = p.projection.runId
  authorityRun : p.authority.runId = p.projection.runId
  batchId : p.basis.batchId = p.authority.batchId
  version : p.basis.sourceRunVersion = p.authority.sourceRunVersion
  projectionVersion : p.authority.sourceRunVersion = p.projection.sourceRunVersion
  digest : p.basis.basisDigest = .ok p.projection.basisDigest

theorem RunFinalizationPublication.bound (p : RunFinalizationPublication) : p.Bound := by
  have h := p.accepted
  simp only [Fields.postInit, bind_eq_ok, Raises.port_eq_ok, Port.invalidIf_eq_ok,
    Bool.not_eq_true] at h
  obtain ⟨_, hmismatch, rfl⟩ := h
  simp only [Fields.bindingMismatch, anyOf_eq_ok_false, List.forall_mem_cons, Except.ok.injEq,
    decide_eq_false_iff_not, not_or, not_not, ne_eq, differs_eq_ok_false, Raises.domain_eq_ok]
    at hmismatch
  obtain ⟨⟨hauthority, hprojection, -, -, -, -, hrun, hbatch, hversion⟩, hdigest, -⟩ := hmismatch
  exact ⟨hrun, hauthority, hbatch, hversion, hprojection, hdigest⟩

namespace FinalizeRun

/-- The publication that a command prepares closes its Run on its basis. -/
structure Prepared (command : FinalizeRunCommand) (authority : FinalizeRunAuthority)
    (p : RunFinalizationPublication) : Prop where
  basis : p.basis = command.candidateBasis
  authority : p.authority = authority
  state : p.projection.state.toFields = closedState p.basis p.projection.basisDigest

theorem prepared (h : prepare command authority snapshot = .ok p) :
    Prepared command authority p := by
  simp only [prepare, bind_eq_ok, exists_unit, Raises.domain_eq_ok, Raises.port_eq_ok,
    Raises.handoff_eq_ok, RunFinalizationState.new_eq_ok, RunFinalizationProjection.new_eq_ok,
    RunFinalizationPublication.new_eq_ok] at h
  obtain ⟨-, digest, hdigest, state, hstate, projection, hprojection, _, -, _, -, hp⟩ := h
  have hsame : p.projection = projection := congrArg (·.projection) hp
  have hbasis : p.basis = command.candidateBasis := congrArg (·.basis) hp
  have hdigest' := p.bound.digest
  rw [hbasis, hdigest, Except.ok.injEq] at hdigest'
  refine ⟨hbasis, congrArg (·.authority) hp, ?_⟩
  rw [hsame] at hdigest' ⊢
  rw [← hdigest', hbasis, hprojection]
  exact hstate

end FinalizeRun

namespace PostgresRunFinalization

variable {attempts : List AssignedAttemptRow} {run : RunRow} {row : RunBasisRow}
  {projection : RunFinalizationProjection} {r : ReplayResult RunFinalizationProjection}

theorem find_map_attempt {f : AssignedAttemptRow → AssignedAttemptRow} (hf : ∀ a, (f a).id = a.id)
    (id : Str) : (attempts.map f).find? (·.id = id) =
      (attempts.find? (·.id = id)).map f := by
  rw [List.find?_map]
  congr 2
  funext a
  simp [hf]

theorem ids_map_attempt {f : AssignedAttemptRow → AssignedAttemptRow} (hf : ∀ a, (f a).id = a.id) :
    (attempts.map f).map (·.id) = attempts.map (·.id) := by
  rw [List.map_map]
  congr 1
  funext a
  exact hf a

/-- The update touches attempts of the Run only, and leaves the named one in its final state. -/
structure Terminated (p : RunFinalizationPublication) (before after : List AssignedAttemptRow) :
    Prop where
  ids : after.map (·.id) = before.map (·.id)
  others : ∀ id attempt, before.find? (·.id = id) = some attempt →
    attempt.runId ≠ p.basis.runId → after.find? (·.id = id) = some attempt
  named : (before.map (·.id)).Nodup → ∀ id, p.basis.finalAttemptId = some id → ∃ attempt,
    after.find? (·.id = id) = some attempt ∧ attempt.runId = p.basis.runId ∧
    p.basis.finalAttemptState = some attempt.state

theorem terminated (h : publishAttemptTerminal s p = .ok attempts) :
    Terminated p s.attempts attempts := by
  unfold publishAttemptTerminal at h
  cases hid : p.basis.finalAttemptId with
  | none =>
    simp only [hid, pure_eq_ok] at h
    subst h
    refine ⟨rfl, fun _ _ hfind _ => hfind, fun _ id hsome => ?_⟩
    rw [hid] at hsome
    cases hsome
  | some id =>
    simp only [hid, bind_eq_ok, exists_unit, need_eq_ok, Raises.refuseIf_eq_ok, pure_eq_ok,
      ne_eq, not_not] at h
    obtain ⟨state, hstate, hcount, rfl⟩ := h
    have hf : ∀ a : AssignedAttemptRow, (if a.id = id ∧ a.runId = p.basis.runId ∧
        some a.version = p.basis.finalAttemptVersion ∧ some a.fence = p.basis.finalAttemptFence
        then { a with state := state, version := a.version + 1 } else a).id = a.id := by
      intro a
      split <;> rfl
    refine ⟨ids_map_attempt hf, fun id' attempt hfind hrun => ?_, fun hids id' hid' => ?_⟩
    · rw [find_map_attempt hf, hfind, Option.map_some]
      have hnot : ¬ (attempt.id = id ∧ attempt.runId = p.basis.runId ∧
          some attempt.version = p.basis.finalAttemptVersion ∧
          some attempt.fence = p.basis.finalAttemptFence) := fun hnamed => hrun hnamed.2.1
      rw [if_neg hnot]
    · have hid'' : id = id' := Option.some.inj (hid.symm.trans hid')
      subst hid''
      obtain ⟨attempt, hmem, hnamed⟩ := List.countP_pos_iff.mp (by rw [hcount]; exact Nat.one_pos)
      rw [decide_eq_true_iff] at hnamed
      have hfind := Keyed.find_of_mem hids hmem
      rw [hnamed.1] at hfind
      refine ⟨{ attempt with state := state, version := attempt.version + 1 }, ?_, hnamed.2.1,
        hstate⟩
      rw [find_map_attempt hf, hfind, Option.map_some, if_pos hnamed]

/-- What a first publication writes besides its records. -/
structure Written (p : RunFinalizationPublication) (s s' : FinalizationTables) : Prop where
  runBases : s'.runBases = s.runBases ++ [⟨p.basis, p.projection.basisDigest⟩]
  readinessFacts : s'.readinessFacts = s.readinessFacts
  batchBases : s'.batchBases = s.batchBases
  batches : s'.batches = s.batches
  attempts : Terminated p s.attempts s'.attempts
  run : ∃ run, s.runs p.projection.runId = some run ∧ run.batchId = p.authority.batchId ∧
    s'.runs = Function.update s.runs p.projection.runId (some { run with
      orchestrationPhase := p.projection.state.phase
      disposition := p.projection.state.disposition
      outcome := p.projection.state.outcome
      finalizationBasisDigest := p.projection.state.finalizationBasisDigest
      version := run.version + 1 })

theorem written_of_publishRows (h : publishRows s p = .ok s') : Written p s s' := by
  simp only [publishRows, publishRunProjection, bind_eq_ok, exists_unit, Raises.port_eq_ok,
    Raises.domain_eq_ok, need_eq_ok, raiseIf_eq_ok, pure_eq_ok, not_or, ne_eq, not_not] at h
  obtain ⟨-, digest, hdigest, attempts, hattempts, _, ⟨run, hrun, ⟨hbatch, -⟩, rfl⟩, rfl⟩ := h
  have hsame : p.projection.basisDigest = digest :=
    Except.ok.inj (p.bound.digest.symm.trans hdigest)
  exact ⟨by rw [hsame], rfl, rfl, rfl, terminated hattempts, run, hrun, hbatch, rfl⟩

/-- A publication repeats the stored basis of its Run, or writes the first one. -/
theorem publishFinalization_eq_ok (h : publishFinalization s p = .ok (r, s')) :
    (∃ row, s.runBasisOf p.projection.runId = some row ∧ s' = s ∧ r.replayed = true ∧
        replayStored s p row = .ok r.value) ∨
      (s.runBasisOf p.projection.runId = none ∧ r = ⟨p.projection, false⟩ ∧ Written p s s') := by
  simp only [publishFinalization, bind_eq_ok, exists_unit, Raises.conflictIf_eq_ok] at h
  obtain ⟨_, -, -, h⟩ := h
  cases hrow : s.runBasisOf p.projection.runId with
  | some row =>
    simp only [hrow, bind_eq_ok, pure_eq_ok, Prod.mk.injEq] at h
    obtain ⟨value, hreplay, rfl, rfl⟩ := h
    exact Or.inl ⟨row, rfl, rfl, rfl, hreplay⟩
  | none =>
    simp only [hrow, bind_eq_ok, exists_unit, pure_eq_ok, Prod.mk.injEq] at h
    obtain ⟨_, -, -, _, hrows, rfl, rfl⟩ := h
    exact Or.inr ⟨rfl, rfl, written_of_publishRows hrows⟩

theorem runId_ne_of_none {runId : Str} (h : s.runBasisOf runId = none) :
    ∀ row ∈ s.runBases, row.basis.runId ≠ runId := by
  simpa [FinalizationTables.runBasisOf] using h

/-- The published projection is the one of the basis. -/
theorem projects_of_written
    (hp : p.projection.state.toFields = closedState p.basis p.projection.basisDigest) :
    RunBasisRow.Projects ⟨p.basis, p.projection.basisDigest⟩ p.projection :=
  ⟨p.bound.runId.symm, (p.bound.version.trans p.bound.projectionVersion).symm, hp⟩

section
variable (hp : p.projection.state.toFields = closedState p.basis p.projection.basisDigest)
  (hw : Written p s s') (hnone : s.runBasisOf p.projection.runId = none)
include hw

include hp in
/-- The basis that was written is shown. -/
theorem shown_of_written (hids : (s.attempts.map (·.id)).Nodup) :
    RunBasisRow.ShownIn ⟨p.basis, p.projection.basisDigest⟩ s' where
  digest := p.bound.digest
  run := by
    obtain ⟨run, -, hbatch, hruns⟩ := hw.run
    have hstored := congrFun hruns p.projection.runId
    rw [Function.update_self, ← p.bound.runId] at hstored
    exact ⟨_, hstored, hbatch.trans p.bound.batchId.symm, congrArg (·.phase) hp,
      congrArg (·.disposition) hp, congrArg (·.outcome) hp⟩
  attempt id hid := hw.attempts.named hids id hid

include hnone

/-- The other Runs show what they showed. -/
theorem shown_of_shown (hrow : row ∈ s.runBases) (hs : row.ShownIn s) : row.ShownIn s' where
  digest := hs.digest
  run := by
    obtain ⟨_, -, -, hruns⟩ := hw.run
    rw [hruns, Function.update_of_ne (runId_ne_of_none hnone row hrow)]
    exact hs.run
  attempt id hid := by
    obtain ⟨attempt, hfind, hrun, hstate⟩ := hs.attempt id hid
    have hne : attempt.runId ≠ p.basis.runId := by
      rw [hrun, p.bound.runId]
      exact runId_ne_of_none hnone row hrow
    exact ⟨attempt, hw.attempts.others id attempt hfind hne, hrun, hstate⟩

include hp in
theorem evolves_of_written : Evolves s s' where
  consistent hs := {
    attemptIds := by
      rw [hw.attempts.ids]
      exact hs.attemptIds
    runKeys := by
      rw [hw.runBases, List.map_append, List.map_singleton]
      refine List.Nodup.append hs.runKeys (List.nodup_singleton _) ?_
      intro runId hold hnew
      rw [List.mem_singleton] at hnew
      subst hnew
      obtain ⟨row, hrow, hsame⟩ := List.mem_map.mp hold
      exact runId_ne_of_none hnone row hrow (hsame.trans p.bound.runId)
    factKeys := hw.readinessFacts ▸ hs.factKeys
    batchKeys := hw.batchBases ▸ hs.batchKeys
    runs := by
      rw [hw.runBases]
      intro row hrow
      rcases List.mem_append.mp hrow with hold | hnew
      · exact shown_of_shown hw hnone hold (hs.runs row hold)
      · rw [List.mem_singleton] at hnew
        subst hnew
        exact shown_of_written hp hw hs.attemptIds
    facts := by
      rw [hw.readinessFacts]
      intro fact hfact
      obtain ⟨hdigest, hready, hversion, hbatch, hprojects⟩ := hs.facts fact hfact
      refine ⟨hdigest, hready, hversion, ?_, hprojects⟩
      rw [hw.batches, hw.batchBases]
      exact hbatch
    batches := by
      rw [hw.batchBases]
      intro row hrow
      obtain ⟨hdigest, hbatch, hprojects⟩ := hs.batches row hrow
      refine ⟨hdigest, ?_, hprojects⟩
      rw [hw.batches]
      exact hbatch }
  runBases := hw.runBases ▸ List.prefix_append _ _
  readinessFacts := hw.readinessFacts ▸ List.prefix_rfl
  batchBases := hw.batchBases ▸ List.prefix_rfl

end

/-- The row of a closed Run and its last attempt show the state that the basis demands. -/
theorem storedState_of_shown {run : RunRow} (hshown : row.ShownIn s)
    (hrun : s.runs row.basis.runId = some run) (hprojects : row.Projects projection) :
    storedState s run row = .ok projection.state := by
  obtain ⟨run', hrun', -, hphase, hdisposition, houtcome⟩ := hshown.run
  cases hrun.symm.trans hrun'
  have hattempt : ((row.basis.finalAttemptId.bind fun id =>
      s.attempts.find? (·.id = id)).map (·.state)) = row.basis.finalAttemptState := by
    cases hid : row.basis.finalAttemptId with
    | none => exact (RunFinalizationBasis.finalAttemptState_of_none hid).symm
    | some id =>
      obtain ⟨attempt, hfind, -, hstate⟩ := hshown.attempt id hid
      rw [Option.bind_some, hfind, Option.map_some, hstate]
  simp only [storedState, bind_eq_ok, need_eq_ok, Raises.domain_eq_ok,
    RunFinalizationState.new_eq_ok]
  refine ⟨_, hdisposition, _, houtcome, ?_⟩
  rw [hphase, hattempt]
  exact hprojects.state

/-- The lookup of a stored basis finds its projection. -/
theorem lookupStored_of_mem (hs : s.Consistent) (hrow : row ∈ s.runBases)
    (hprojects : row.Projects projection) :
    lookupStored s ⟨"qep.run-finalization-basis.v1", row.basis.runId,
      row.basis.sourceRunVersion⟩ = .ok (some projection) := by
  obtain ⟨run, hrun, -⟩ := (hs.runs row hrow).run
  have hstate := storedState_of_shown (hs.runs row hrow) hrun hprojects
  have hfind : s.runBases.find? (fun found => found.basis.runId = row.basis.runId ∧
      found.basis.sourceRunVersion = row.basis.sourceRunVersion) = some row :=
    Keyed.find_of_key hs.runKeys hrow ⟨rfl, rfl⟩ fun _ hfound => hfound.1
  simp only [lookupStored, hfind, hrun, bind_eq_ok, exists_unit, Raises.port_eq_ok,
    Port.invalidIf_eq_ok, RunFinalizationProjection.new_eq_ok, pure_eq_ok, ne_eq, not_true,
    not_false_eq_true, true_and]
  refine ⟨_, hstate, projection, ?_, rfl⟩
  obtain ⟨hrunId, hversion, -⟩ := hprojects
  rw [← hrunId, ← hversion]

/-- What the lookup finds is stored. -/
theorem mem_of_lookupStored {scope : IdentityScope} (hs : s.Consistent)
    (h : lookupStored s scope = .ok (some projection)) :
    ∃ row ∈ s.runBases, row.basis.runId = scope.aggregateId ∧ row.Projects projection := by
  simp only [lookupStored, bind_eq_ok, exists_unit] at h
  obtain ⟨-, h⟩ := h
  split at h
  · rename_i row run hfind hrun
    have hrow := List.mem_of_find?_eq_some hfind
    have hkey := List.find?_some hfind
    rw [decide_eq_true_iff] at hkey
    obtain ⟨hrunId, hversion⟩ := hkey
    obtain ⟨stored, hstored⟩ := row.exists_projects
    rw [← hrunId] at hrun
    have hstate := storedState_of_shown (hs.runs row hrow) hrun hstored
    simp only [bind_eq_ok, Raises.port_eq_ok, RunFinalizationProjection.new_eq_ok, pure_eq_ok,
      Option.some.injEq, hstate, Except.ok.injEq] at h
    obtain ⟨_, rfl, _, hfields, rfl⟩ := h
    refine ⟨row, hrow, hrunId, ⟨?_, ?_, ?_⟩⟩
    · rw [hfields, hrunId]
    · rw [hfields, hversion]
    · rw [hfields]
      exact hstored.state
  · cases h

end PostgresRunFinalization

namespace FinalizeRun
open PostgresRunFinalization Handler

variable {r : ReplayResult RunFinalizationProjection}

/-- The projection is of the stored basis of the Run. -/
def Stored (command : FinalizeRunCommand) (p : RunFinalizationProjection)
    (s : FinalizationTables) : Prop :=
  ∃ row ∈ s.runBases, row.basis.runId = command.candidateBasis.runId ∧ row.Projects p

/-- The Run has no stored basis yet. -/
def Vacant (command : FinalizeRunCommand) (s : FinalizationTables) : Prop :=
  s.runBasisOf command.candidateBasis.runId = none

/-- The first publication. -/
def Made (command : FinalizeRunCommand) (s : FinalizationTables)
    (p : RunFinalizationProjection) (s' : FinalizationTables) : Prop :=
  Vacant command s ∧ Stored command p s'

/-- The authority is for the Run and the source that the candidate basis names. -/
def Granted (command : FinalizeRunCommand) (authority : FinalizeRunAuthority) : Prop :=
  authority.runId = command.candidateBasis.runId ∧ requireSource command authority = .ok ()

theorem requireFinalizationAuthority_runId {runId : Str}
    (h : requireFinalizationAuthority s runId = .ok authority) : authority.runId = runId := by
  simp only [requireFinalizationAuthority, bind_eq_ok, exists_unit, Raises.port_eq_ok,
    FinalizeRunAuthority.new, construct_eq_ok] at h
  obtain ⟨_, -, _, -, _, -, _, -, _, -, _, rfl⟩ := h
  rfl

/-- The authority with which the handler goes on. -/
def authorized (command : FinalizeRunCommand) (s : FinalizationTables) :
    Raises FinalizeRunAuthority := do
  let authority ← requireFinalizationAuthority s command.candidateBasis.runId
  requireSource command authority
  return authority

theorem authorized_eq_ok : authorized command s = .ok authority ↔
    requireFinalizationAuthority s command.candidateBasis.runId = .ok authority ∧
      requireSource command authority = .ok () := by
  simp only [authorized, bind_eq_ok, exists_unit, pure_eq_ok]
  constructor
  · rintro ⟨_, hauthority, hsource, rfl⟩
    exact ⟨hauthority, hsource⟩
  · rintro ⟨hauthority, hsource⟩
    exact ⟨authority, hauthority, hsource, rfl⟩

theorem require_eq (command : FinalizeRunCommand) :
    (handler gateway command).require = Prog.read (authorized command) := Prog.read_checked _ _

theorem publication_runId (h : Prepared command authority p) :
    p.projection.runId = command.candidateBasis.runId := by
  rw [← p.bound.runId, h.basis]

/-- The publication of the handler repeats the stored basis, or stores the first one. -/
theorem stores_of_publish (hp : Prepared command authority p) (hs : s.Consistent)
    (h : publishFinalization s p = .ok (r, s')) :
    Stores (Stored command) (Made command) s r s' := by
  obtain ⟨value, replayed⟩ := r
  rcases publishFinalization_eq_ok h with ⟨row, hrow, rfl, rfl, hreplay⟩ | ⟨hnone, hr, hw⟩
  · simp only [replayStored, bind_eq_ok, exists_unit, need_eq_ok] at hreplay
    obtain ⟨_, -, -, _, hlookup, rfl⟩ := hreplay
    obtain ⟨row', hrow', hrunId, hprojects⟩ := mem_of_lookupStored hs hlookup
    refine .repeated ⟨row', hrow', ?_, hprojects⟩
    rw [hrunId, ← publication_runId hp]
    exact p.bound.authorityRun
  · cases hr
    rw [publication_runId hp] at hnone
    refine .first ⟨hnone, ⟨p.basis, p.projection.basisDigest⟩, ?_, ?_, ?_⟩
    · rw [hw.runBases]
      exact List.mem_concat_self
    · rw [hp.basis]
    · exact projects_of_written hp.state

theorem stored_of_evolves {v : RunFinalizationProjection} (h : Evolves s s')
    (hheld : Stored command v s) : Stored command v s' := by
  obtain ⟨row, hrow, hstored⟩ := hheld
  exact ⟨row, h.runBases.subset hrow, hstored⟩

theorem lawful (command : FinalizeRunCommand) :
    (handler gateway command).Lawful Evolves FinalizationTables.Consistent
      (fun a _ => Granted command a) (fun _ _ _ => True) (Stored command) (Stored command)
      (Made command) where
  quiet := by
    rw [require_eq]
    exact Prog.quiet_read _
  inv h hs := h.consistent hs
  holds h _ := stored_of_evolves h
  shows h _ := stored_of_evolves h
  made h := h.2
  stays _ hgranted := hgranted
  locked _ _ := trivial
  granted h _ := by
    rw [require_eq] at h
    obtain ⟨t, -, -, -, hlook⟩ := h.of_read
    obtain ⟨hauthority, hsource⟩ := authorized_eq_ok.mp hlook
    exact ⟨requireFinalizationAuthority_runId hauthority, hsource⟩
  lookup := by
    rintro authority v s ⟨hrunId, -⟩ hs hlookup
    obtain ⟨row, hrow, hsame, hprojects⟩ := mem_of_lookupStored hs hlookup
    exact ⟨row, hrow, hsame.trans hrunId, hprojects⟩
  lock _ _ _ := trivial
  publish := by
    intro authority snapshot p s r s' _ _ hs hprepare hpublish
    refine ⟨?_, stores_of_publish (prepared hprepare) hs hpublish⟩
    rcases publishFinalization_eq_ok hpublish with ⟨row, -, rfl, -, -⟩ | ⟨hnone, -, hw⟩
    · exact refl_of Evolves s'
    · exact evolves_of_written (prepared hprepare).state hw hnone

theorem replay_eq_ok {stored : RunFinalizationProjection} {result : FinalizeRunResult} :
    replay command stored = .ok result ↔
      command.candidateBasis.basisDigest = .ok stored.basisDigest ∧ result = ⟨stored, true⟩ := by
  simp only [replay, bind_eq_ok, exists_unit, Raises.domain_eq_ok, Raises.refuseIf_eq_ok,
    pure_eq_ok, ne_eq, not_not]
  constructor
  · rintro ⟨_, hdigest, rfl, rfl⟩
    exact ⟨hdigest, rfl⟩
  · rintro ⟨hdigest, rfl⟩
    exact ⟨_, hdigest, rfl, rfl⟩

/-- The authority for a closed Run is for the source of its stored basis. -/
theorem identityScope_of_stored {row : RunBasisRow} (hs : s.Consistent) (hrow : row ∈ s.runBases)
    (hrunId : row.basis.runId = command.candidateBasis.runId)
    (h : authorized command s = .ok authority) : authority.identityScope =
      ⟨"qep.run-finalization-basis.v1", row.basis.runId, row.basis.sourceRunVersion⟩ := by
  have hrequired := (authorized_eq_ok.mp h).1
  have hfind : s.runBasisOf command.candidateBasis.runId = some row := by
    rw [← hrunId]
    exact Keyed.find_of_mem hs.runKeys hrow
  simp only [requireFinalizationAuthority, bind_eq_ok, exists_unit, Raises.port_eq_ok,
    FinalizeRunAuthority.new, construct_eq_ok, hfind] at hrequired
  obtain ⟨_, -, _, -, _, -, _, -, _, -, _, rfl⟩ := hrequired
  rw [FinalizeRunAuthority.identityScope, hrunId]
  rfl

/-- Once a basis is stored, an execution with its digest that gets its authority answers with it. -/
theorem replays {row : RunBasisRow} {winner : RunFinalizationProjection}
    {steps : List (FinalizationTables × FinalizationTables)} {result : Raises FinalizeRunResult}
    (hs : s.Consistent) (hrow : row ∈ s.runBases)
    (hrunId : row.basis.runId = command.candidateBasis.runId) (hprojects : row.Projects winner)
    (hdigest : command.candidateBasis.basisDigest = .ok row.basisDigest)
    (hauthority : ∀ t rest, steps = (t, t) :: rest → ∃ authority,
      authorized command t = .ok authority)
    (h : Thread Evolves (execute gateway command) s steps (.done result) s') :
    result = .ok ⟨winner, true⟩ ∧ Unchanged steps := by
  have hrequire : ∀ first r t, first <+: steps →
      Thread Evolves (handler gateway command).require s first (.done r) t →
      ∃ a, r = .ok a ∧ a.identityScope =
        ⟨"qep.run-finalization-basis.v1", row.basis.runId, row.basis.sourceRunVersion⟩ := by
    intro first r t hprefix hthread
    rw [require_eq] at hthread
    obtain ⟨u, hsu, -, rfl, hlook⟩ := hthread.of_read
    obtain ⟨rest, rfl⟩ := hprefix
    obtain ⟨authority, hgranted⟩ := hauthority u rest rfl
    exact ⟨authority, hlook.symm.trans hgranted, identityScope_of_stored (hsu.consistent hs)
      (hsu.runBases.subset hrow) hrunId hgranted⟩
  have hfound : ∀ (a : FinalizeRunAuthority) t, a.identityScope =
      ⟨"qep.run-finalization-basis.v1", row.basis.runId, row.basis.sourceRunVersion⟩ →
      Evolves s t → Evolves t s' → (handler gateway command).lookup a t = .ok (some winner) := by
    intro a t hscope hst _
    show lookupStored t a.identityScope = _
    rw [hscope]
    exact lookupStored_of_mem (hst.consistent hs) (hst.runBases.subset hrow) hprojects
  obtain ⟨a, -, hresult, hunchanged⟩ :=
    (lawful command).replays hs (fun _ _ => rfl) hrequire hfound h
  have hsame : winner.basisDigest = row.basisDigest :=
    RunFinalizationProjection.basisDigest_eq_iff.mpr
      (congrArg (·.finalizationBasisDigest) hprojects.state)
  exact ⟨hresult.trans (replay_eq_ok.mpr ⟨hsame ▸ hdigest, rfl⟩), hunchanged⟩

end FinalizeRun

end QaRunner
