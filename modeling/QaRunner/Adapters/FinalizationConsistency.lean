import QaRunner.Adapters.PostgresBatchFinalization
import QaRunner.Lib.Keyed

/-! What the finalization tables keep: a stored basis is shown by the rows of its Run or Batch, and
no Run or Batch has two. -/
namespace QaRunner
open Guarded Interleaving PublishOnce

/-- The projection of a stored Run basis. -/
structure RunBasisRow.Projects (row : RunBasisRow) (p : RunFinalizationProjection) : Prop where
  runId : p.runId = row.basis.runId
  version : p.sourceRunVersion = row.basis.sourceRunVersion
  state : p.state.toFields = closedState row.basis row.basisDigest

/-- Every stored basis has one. -/
theorem RunBasisRow.exists_projects (row : RunBasisRow) : ∃ p, row.Projects p := by
  have hbasis := row.basis.accepted
  simp only [RunFinalizationBasis.Fields.postInit, then_eq_ok, each_eq_ok, List.forall_mem_cons,
    requireString_eq_ok, requireNonnegativeInt_eq_ok] at hbasis
  have hstate : (closedState row.basis row.basisDigest).postInit = .ok () := rfl
  have hprojection : RunFinalizationProjection.Fields.postInit
      ⟨row.basis.runId, row.basis.sourceRunVersion, ⟨_, hstate⟩⟩ = .ok () := by
    simp only [RunFinalizationProjection.Fields.postInit, then_eq_ok, Port.string,
      Port.nonnegative, Port.invalidIf_eq_ok]
    exact ⟨by simpa using hbasis.1.1, Int.not_lt.mpr hbasis.2.1, by simp [closedState]⟩
  exact ⟨⟨_, hprojection⟩, rfl, rfl, rfl⟩

def BatchBasisRow.projection (row : BatchBasisRow) : BatchFinalizationProjection.Fields where
  batchId := row.basis.resolutionSet.batchId
  sourceBatchVersion := row.basis.resolutionSet.sourceBatchVersion
  batchVersion := row.basis.resolutionSet.sourceBatchVersion + 1
  outcome := row.basis.batchOutcome
  basisDigest := row.basisDigest

def ReadinessFactRow.projection (fact : ReadinessFactRow) :
    BatchFinalizationReadinessProjection.Fields where
  batchId := fact.payload.batchId
  sourceBatchVersion := fact.payload.sourceBatchVersion
  batchVersion := fact.batchVersion
  state := .finalizing
  readinessDigest := fact.readinessDigest

/-- A closed Run and its last attempt show what the stored basis says. -/
structure RunBasisRow.ShownIn (row : RunBasisRow) (s : FinalizationTables) : Prop where
  digest : row.basis.basisDigest = .ok row.basisDigest
  run : ∃ run, s.runs row.basis.runId = some run ∧ run.batchId = row.basis.batchId ∧
    run.orchestrationPhase = .closed ∧ run.disposition = some .closedNoRetry ∧
    run.outcome = some row.basis.outcome
  attempt : ∀ id, row.basis.finalAttemptId = some id → ∃ attempt,
    s.attempts.find? (·.id = id) = some attempt ∧ attempt.runId = row.basis.runId ∧
    row.basis.finalAttemptState = some attempt.state

/-- A finalized Batch shows the outcome of its stored basis. -/
structure BatchBasisRow.ShownIn (row : BatchBasisRow) (s : FinalizationTables) : Prop where
  digest : row.basis.basisDigest = .ok row.basisDigest
  batch : ∃ batch, s.batches row.basis.resolutionSet.batchId = some batch ∧
    batch.state = row.basis.batchOutcome ∧
    batch.version = row.basis.resolutionSet.sourceBatchVersion + 1 ∧
    batch.finalizationReadinessRef = row.readinessRef
  projects : row.projection.postInit = .ok ()

/-- A Batch points at the fact with which it started to finalize, until it is finalized. -/
structure ReadinessFactRow.ShownIn (fact : ReadinessFactRow) (s : FinalizationTables) : Prop where
  digest : fact.payload.digest = .ok fact.readinessDigest
  ready : fact.payload.pendingRetryIntents = [] ∧ fact.payload.attemptCreationOpportunities = []
  version : fact.batchVersion = fact.payload.sourceBatchVersion + 1
  batch : ∃ batch, s.batches fact.payload.batchId = some batch ∧
    batch.finalizationReadinessRef = some fact.ref ∧
    (batch.state = .finalizing ∧ batch.version = fact.batchVersion ∨
      ∃ row ∈ s.batchBases, row.basis.resolutionSet.batchId = fact.payload.batchId)
  projects : fact.projection.postInit = .ok ()

/-- Every stored basis and fact is shown, and is the only one of its Run or Batch. -/
structure FinalizationTables.Consistent (s : FinalizationTables) : Prop where
  attemptIds : (s.attempts.map (·.id)).Nodup
  runKeys : (s.runBases.map (·.basis.runId)).Nodup
  factKeys : (s.readinessFacts.map (·.payload.batchId)).Nodup
  batchKeys : (s.batchBases.map (·.basis.resolutionSet.batchId)).Nodup
  runs : ∀ row ∈ s.runBases, row.ShownIn s
  facts : ∀ fact ∈ s.readinessFacts, fact.ShownIn s
  batches : ∀ row ∈ s.batchBases, row.ShownIn s

/-- What any number of steps keeps: what is stored stays as it is. -/
structure Evolves (s s' : FinalizationTables) : Prop where
  consistent : s.Consistent → s'.Consistent
  runBases : s.runBases <+: s'.runBases
  readinessFacts : s.readinessFacts <+: s'.readinessFacts
  batchBases : s.batchBases <+: s'.batchBases

instance : IsPreorder FinalizationTables Evolves where
  refl _ := ⟨id, List.prefix_rfl, List.prefix_rfl, List.prefix_rfl⟩
  trans _ _ _ h h' := ⟨h'.consistent ∘ h.consistent, h.runBases.trans h'.runBases,
    h.readinessFacts.trans h'.readinessFacts, h.batchBases.trans h'.batchBases⟩

/-- What every other command may do: anything but touch what is final. The write epoch of a Batch
may change at any time. -/
structure KeepsFinal (s s' : FinalizationTables) : Prop where
  runBases : s'.runBases = s.runBases
  readinessFacts : s'.readinessFacts = s.readinessFacts
  batchBases : s'.batchBases = s.batchBases
  attemptIds : (s.attempts.map (·.id)).Nodup → (s'.attempts.map (·.id)).Nodup
  runs : ∀ row ∈ s.runBases, s'.runs row.basis.runId = s.runs row.basis.runId
  attempts : ∀ row ∈ s.runBases, ∀ id, row.basis.finalAttemptId = some id →
    s'.attempts.find? (·.id = id) = s.attempts.find? (·.id = id)
  batches : ∀ batchId batch, s.batches batchId = some batch →
    ((∃ fact ∈ s.readinessFacts, fact.payload.batchId = batchId) ∨
      ∃ row ∈ s.batchBases, row.basis.resolutionSet.batchId = batchId) →
    ∃ writeEpoch, s'.batches batchId = some { batch with writeEpoch := writeEpoch }

variable {s s' : FinalizationTables}

theorem RunBasisRow.ShownIn.of_same {row : RunBasisRow} (hs : row.ShownIn s)
    (hruns : s'.runs = s.runs) (hattempts : s'.attempts = s.attempts) : row.ShownIn s' where
  digest := hs.digest
  run := by
    rw [hruns]
    exact hs.run
  attempt := by
    rw [hattempts]
    exact hs.attempt

theorem KeepsFinal.runBasis (h : KeepsFinal s s') {row : RunBasisRow} (hrow : row ∈ s.runBases)
    (hs : row.ShownIn s) : row.ShownIn s' where
  digest := hs.digest
  run := by
    rw [h.runs row hrow]
    exact hs.run
  attempt id hid := by
    rw [h.attempts row hrow id hid]
    exact hs.attempt id hid

theorem KeepsFinal.batchBasis (h : KeepsFinal s s') {row : BatchBasisRow}
    (hrow : row ∈ s.batchBases) (hs : row.ShownIn s) : row.ShownIn s' where
  digest := hs.digest
  batch := by
    obtain ⟨batch, hbatch, hstate, hversion, href⟩ := hs.batch
    obtain ⟨_, hbatch'⟩ := h.batches _ batch hbatch (Or.inr ⟨row, hrow, rfl⟩)
    exact ⟨_, hbatch', hstate, hversion, href⟩
  projects := hs.projects

theorem KeepsFinal.fact (h : KeepsFinal s s') {fact : ReadinessFactRow}
    (hfact : fact ∈ s.readinessFacts) (hs : fact.ShownIn s) : fact.ShownIn s' where
  digest := hs.digest
  ready := hs.ready
  version := hs.version
  batch := by
    obtain ⟨batch, hbatch, href, hstate⟩ := hs.batch
    obtain ⟨_, hbatch'⟩ := h.batches _ batch hbatch (Or.inl ⟨fact, hfact, rfl⟩)
    refine ⟨_, hbatch', href, ?_⟩
    rw [h.batchBases]
    exact hstate
  projects := hs.projects

theorem KeepsFinal.evolves (h : KeepsFinal s s') : Evolves s s' where
  consistent hs := {
    attemptIds := h.attemptIds hs.attemptIds
    runKeys := h.runBases ▸ hs.runKeys
    factKeys := h.readinessFacts ▸ hs.factKeys
    batchKeys := h.batchBases ▸ hs.batchKeys
    runs := by
      rw [h.runBases]
      exact fun row hrow => h.runBasis hrow (hs.runs row hrow)
    facts := by
      rw [h.readinessFacts]
      exact fun fact hfact => h.fact hfact (hs.facts fact hfact)
    batches := by
      rw [h.batchBases]
      exact fun row hrow => h.batchBasis hrow (hs.batches row hrow) }
  runBases := h.runBases ▸ List.prefix_rfl
  readinessFacts := h.readinessFacts ▸ List.prefix_rfl
  batchBases := h.batchBases ▸ List.prefix_rfl

end QaRunner
