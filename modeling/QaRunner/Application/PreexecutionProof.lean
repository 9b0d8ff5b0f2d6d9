import QaRunner.Application.Handoff

/-! Proof assembly for zero-child pre-execution closure: the facts the proof reads, the fixed
order it checks them in, and the snapshot it assembles. -/
namespace QaRunner
open Guarded Application

/-- Stable business ordering and generation identity for one ledger task. -/
structure PreexecutionTaskKey where
  phaseOrdinal : ℤ
  taskKind : Str
  taskKey : Str
  generation : ℤ
  deriving DecidableEq

namespace PreexecutionTaskKey

def order (k : PreexecutionTaskKey) : ℤ ×ₗ Str ×ₗ Str ×ₗ ℤ :=
  toLex (k.phaseOrdinal, toLex (k.taskKind, toLex (k.taskKey, k.generation)))

def canonicalPayload (k : PreexecutionTaskKey) : Json :=
  .dict [("phase_ordinal", .int k.phaseOrdinal), ("task_kind", .str k.taskKind),
    ("task_key", .str k.taskKey), ("generation", .int k.generation)]

theorem order_injective : Function.Injective order := by
  rintro ⟨⟩ ⟨⟩ h
  simpa [order] using h

end PreexecutionTaskKey

/-- Bind an authoritative seal to stable business-ordered task generations. -/
def canonicalTaskSetDigest (keys : List PreexecutionTaskKey) : Result Digest :=
  canonicalDigest "qep.preexecution-task-set.v1"
    (.dict [("tasks", .list (keys.map (·.canonicalPayload)))])

/-- The key has a place in a digest. -/
structure PreexecutionTaskKey.Digestible (k : PreexecutionTaskKey) : Prop where
  phase_ordinal : SafeInt k.phaseOrdinal
  task_kind : k.taskKind.isUnicode = true
  task_key : k.taskKey.isUnicode = true
  generation : SafeInt k.generation

theorem canonicalTaskSetDigest_ok {keys : List PreexecutionTaskKey}
    (h : ∀ key ∈ keys, key.Digestible) : ∃ digest, canonicalTaskSetDigest keys = .ok digest := by
  refine canonicalDigest_of_valid ?_
  simp only [validateJsonValue_dict, validateJsonFields_cons, validateJsonFields_nil, and_true]
  refine validateJsonValue_map fun key hkey path => ?_
  obtain ⟨hordinal, hkind, hname, hgeneration⟩ := h key hkey
  simp [PreexecutionTaskKey.canonicalPayload, hordinal, hkind, hname, hgeneration]

structure TrustedTaskStop where
  key : PreexecutionTaskKey
  batchId : Str
  projectId : Str
  issuerId : Str
  digest : Digest

/-- Batch-scoped execution authorities observed under one serialization point. -/
structure ExecutionChildInventory where
  runIds : List Str
  assignmentIds : List Str
  startCommitIds : List Str
  attemptIds : List Str
  fences : List ℤ
  retryIntentIds : List Str

/-- Children of a Run that is not there. -/
def ExecutionChildInventory.orphanAuthority (c : ExecutionChildInventory) : Prop :=
  c.runIds = [] ∧ (c.assignmentIds ≠ [] ∨ c.startCommitIds ≠ [] ∨ c.attemptIds ≠ [] ∨
    c.fences ≠ [] ∨ c.retryIntentIds ≠ [])

instance (c : ExecutionChildInventory) : Decidable c.orphanAuthority :=
  inferInstanceAs (Decidable (_ ∧ _))

/-- Authoritative task-ledger seal with the keys of its tasks, including a provable empty set. -/
structure SealedTaskInventory where
  batchId : Str
  projectId : Str
  suiteRevisionId : Str
  ledgerVersion : ℤ
  highWatermark : ℤ
  taskCount : ℤ
  taskSetDigest : Digest
  issuerId : Str
  tasks : List PreexecutionTaskKey

structure TaskLedgerPosition where
  ledgerVersion : ℤ
  highWatermark : ℤ

structure SealedPlannedScopeInventory where
  batchId : Str
  projectId : Str
  suiteRevisionId : Str
  manifestId : Str
  manifestDigest : Digest
  shardPlanId : Str
  shardPlanVersion : ℤ
  shardPlanDigest : Digest
  itemCount : ℤ
  manifestItemKeys : List Str
  issuerId : Str

structure ZeroChildSnapshotInputs where
  batchId : Str
  projectId : Str
  suiteRevisionId : Str
  sourceBatchVersion : ℤ
  ledgerVersion : ℤ
  highWatermark : ℤ
  taskSetDigest : Digest
  stopFactDigests : List Digest
  scope : Option BatchCancellationScope
  terminalKind : Option BatchPreexecutionTerminalKind
  commandDigest : Option Digest
  plannedInventory : Option SealedPlannedScopeInventory

/-- What the proof reads under the Batch-local command boundary. -/
structure PreexecutionProofGateway where
  scanExecutionChildren : Str → Application ExecutionChildInventory
  readSealedTaskInventory : Str → Application (Option SealedTaskInventory)
  readCurrentTaskLedgerPosition : Str → Application TaskLedgerPosition
  readTrustedTaskStops : Str → Application (List TrustedTaskStop)
  isTrustedInventoryIssuer : Str → Bool
  isTrustedStopIssuer : Str → Bool
  readSealedPlannedScopeInventory : Str → Application (Option SealedPlannedScopeInventory)
  isTrustedPlannedScopeIssuer : Str → Bool
  assembleZeroChildSnapshot : ZeroChildSnapshotInputs → Application BatchPreexecutionSnapshot

structure ProvePreexecutionClosureCommand where
  batchId : Str
  projectId : Str
  suiteRevisionId : Str
  sourceBatchVersion : ℤ
  scope : Option BatchCancellationScope := none
  terminalKind : Option BatchPreexecutionTerminalKind := none
  commandDigest : Option Digest := none

/-- Proof branch requiring an execution-path handoff, never zero-child closure. -/
structure MaterializedExecutionScope where
  batchId : Str
  runIds : List Str
  authoritativeRunSetDigest : Digest

inductive PreexecutionProof where
  | zeroChild (snapshot : BatchPreexecutionSnapshot)
  | materialized (scope : MaterializedExecutionScope)

/-- Trusted completeness is not yet available for a terminal decision. -/
def closureNotReady : Failure := ⟨.closureNotReady, []⟩

/-- The facts are impossible: the Batch is quarantined before the failure is raised. -/
def integrityFailure (batchId : Str) : Failure :=
  ⟨.integrityFailure, [.quarantineIntegrityFailure batchId]⟩

namespace ProvePreexecutionClosure

variable (gateway : PreexecutionProofGateway) (command : ProvePreexecutionClosureCommand)

/-- The seal is at the current ledger position, trusted, and binds its tasks in order. -/
def requireSealedTasks (inventory : SealedTaskInventory) : Application Unit := do
  raiseIf (inventory.ledgerVersion < 1 ∨ inventory.highWatermark < 0 ∨ inventory.taskCount < 0)
    (integrityFailure command.batchId)
  let position ← gateway.readCurrentTaskLedgerPosition command.batchId
  raiseIf (position.ledgerVersion ≠ inventory.ledgerVersion ∨
    position.highWatermark ≠ inventory.highWatermark) closureNotReady
  raiseIf (inventory.batchId ≠ command.batchId ∨ inventory.projectId ≠ command.projectId ∨
    inventory.suiteRevisionId ≠ command.suiteRevisionId ∨
    gateway.isTrustedInventoryIssuer inventory.issuerId = false) (integrityFailure command.batchId)
  raiseIf (inventory.taskCount ≠ inventory.tasks.length ∨ ¬ inventory.tasks.Nodup ∨
    inventory.tasks ≠ Sorting.sortOn PreexecutionTaskKey.order inventory.tasks)
    (integrityFailure command.batchId)
  let digest ← lift (canonicalTaskSetDigest inventory.tasks)
  raiseIf (inventory.taskSetDigest ≠ digest) (integrityFailure command.batchId)

/-- One trusted stop for every sealed task, in the same order. -/
def requireTaskStops (inventory : SealedTaskInventory) : Application (List TrustedTaskStop) := do
  let stops ← gateway.readTrustedTaskStops command.batchId
  each stops fun stop => raiseIf (stop.batchId ≠ command.batchId ∨
    stop.projectId ≠ command.projectId ∨ gateway.isTrustedStopIssuer stop.issuerId = false)
    (integrityFailure command.batchId)
  raiseIf (inventory.tasks ≠ stops.map (·.key)) closureNotReady
  return stops

/-- A frozen plan needs the sealed inventory of that plan and an empty Run set. -/
def requirePlannedInventory (scope : BatchCancellationScope) :
    Application SealedPlannedScopeInventory := do
  let found ← gateway.readSealedPlannedScopeInventory command.batchId
  let planned ← need found closureNotReady
  let itemKeys := Sorting.sortOn (fun x => x) planned.manifestItemKeys
  raiseIf (gateway.isTrustedPlannedScopeIssuer planned.issuerId = false ∨
    planned.batchId ≠ command.batchId ∨ planned.projectId ≠ command.projectId ∨
    planned.suiteRevisionId ≠ command.suiteRevisionId ∨
    some planned.manifestDigest ≠ scope.manifestDigest ∨
    some planned.shardPlanVersion ≠ scope.shardPlanVersion ∨
    some planned.shardPlanDigest ≠ scope.shardPlanDigest) (integrityFailure command.batchId)
  let noRuns ← lift (canonicalMaterializedRunSetDigest command.batchId [])
  raiseIf (scope.canonicalRunSetDigest ≠ some noRuns ∨ planned.itemCount ≠ itemKeys.length ∨
    itemKeys = [] ∨ planned.manifestItemKeys ≠ itemKeys ∨ ¬ itemKeys.Nodup ∨ ("" : Str) ∈ itemKeys ∨
    command.terminalKind = none ∨ command.commandDigest = none) (integrityFailure command.batchId)
  return planned

def requirePlannedScopeInventory : Application (Option SealedPlannedScopeInventory) :=
  match command.scope with
  | some scope =>
    if scope.kind = .frozenPlan then do
      let planned ← requirePlannedInventory gateway command scope
      return some planned
    else
      return none
  | none => return none

/-- Prove that nothing of the Batch executes or runs a task, and assemble the snapshot. -/
def proveZeroChild : Application PreexecutionProof := do
  let found ← gateway.readSealedTaskInventory command.batchId
  let inventory ← need found closureNotReady
  requireSealedTasks gateway command inventory
  let stops ← requireTaskStops gateway command inventory
  let planned ← requirePlannedScopeInventory gateway command
  let snapshot ← gateway.assembleZeroChildSnapshot {
    batchId := inventory.batchId
    projectId := inventory.projectId
    suiteRevisionId := inventory.suiteRevisionId
    sourceBatchVersion := command.sourceBatchVersion
    ledgerVersion := inventory.ledgerVersion
    highWatermark := inventory.highWatermark
    taskSetDigest := inventory.taskSetDigest
    stopFactDigests := stops.map (·.digest)
    scope := command.scope
    terminalKind := command.terminalKind
    commandDigest := command.commandDigest
    plannedInventory := planned }
  return .zeroChild snapshot

/-- Apply the fixed child-scan then completeness-proof ordering. -/
def execute : Application PreexecutionProof := do
  let children ← gateway.scanExecutionChildren command.batchId
  raiseIf children.orphanAuthority (integrityFailure command.batchId)
  if children.runIds = [] then
    proveZeroChild gateway command
  else do
    let runIds := Sorting.sortOn (fun x => x) children.runIds
    let digest ← lift (canonicalMaterializedRunSetDigest command.batchId runIds)
    return .materialized ⟨command.batchId, runIds, digest⟩

end ProvePreexecutionClosure

/-- The command digest in the field its terminal kind uses. -/
def BatchPreexecutionTerminalKind.digests (kind : BatchPreexecutionTerminalKind) (d : Digest) :
    Option Digest × Option Digest :=
  match kind with
  | .rejection => (some d, none)
  | .prestartCancel => (none, some d)

/-- The scope items of a sealed plan, none of them started. -/
def plannedScopeItems (inputs : ZeroChildSnapshotInputs) (inventory : SealedPlannedScopeInventory)
    (kind : BatchPreexecutionTerminalKind) (commandDigest runAbsenceDigest : Digest) :
    Result (List BatchPreexecutionScopeItem) :=
  collect (Sorting.sortOn (fun x => x) inventory.manifestItemKeys) fun itemKey =>
    BatchPreexecutionScopeItem.new {
      batchId := inputs.batchId
      sourceBatchVersion := inputs.sourceBatchVersion
      terminalKind := kind
      rejectionFactDigest := (kind.digests commandDigest).1
      batchCancellationIntentDigest := (kind.digests commandDigest).2
      manifestId := inventory.manifestId
      manifestDigest := inventory.manifestDigest
      manifestItemKey := itemKey
      shardPlanId := inventory.shardPlanId
      shardPlanVersion := inventory.shardPlanVersion
      shardPlanDigest := inventory.shardPlanDigest
      materializedRunAbsenceDigest := runAbsenceDigest
      resolution := "not_started" }

/-- The digest of the scope before the plan, derived when the command names none. -/
def preplanScopeDigest (inputs : ZeroChildSnapshotInputs) : Result Digest :=
  match inputs.scope.bind (·.preplanScopeDigest) with
  | some digest => return digest
  | none => canonicalDigest "qep.preexecution-preplan-scope.v1"
      (.dict [("batch_id", .str inputs.batchId),
        ("source_batch_version", .int inputs.sourceBatchVersion)])

/-- The snapshot the stored unit of work assembles. -/
def assembleZeroChildSnapshot (inputs : ZeroChildSnapshotInputs) :
    Result BatchPreexecutionSnapshot := do
  let runAbsenceDigest ← canonicalDigest "qep.preexecution-materialized-run-absence.v1"
    (.dict [("batch_id", .str inputs.batchId),
      ("source_batch_version", .int inputs.sourceBatchVersion)])
  let executionAbsenceDigest ← canonicalDigest "qep.preexecution-execution-absence.v1"
    (.dict [("batch_id", .str inputs.batchId),
      ("source_batch_version", .int inputs.sourceBatchVersion),
      ("ledger_version", .int inputs.ledgerVersion),
      ("high_watermark", .int inputs.highWatermark),
      ("task_set_digest", .str inputs.taskSetDigest.value),
      ("stop_fact_digests", .list (inputs.stopFactDigests.map fun d => .str d.value))])
  let submissionDigest ← canonicalDigest "qep.preexecution-submission.v1"
    (.dict [("batch_id", .str inputs.batchId),
      ("source_batch_version", .int inputs.sourceBatchVersion),
      ("terminal_kind", Json.opt (fun k => .str k.value) inputs.terminalKind),
      ("command_digest", optionalDigestValue inputs.commandDigest)])
  match inputs.plannedInventory with
  | some inventory => do
    let scope ← need inputs.scope (.crash .assertionError)
    let kind ← need inputs.terminalKind (.crash .assertionError)
    let commandDigest ← need inputs.commandDigest (.crash .assertionError)
    let items ← plannedScopeItems inputs inventory kind commandDigest runAbsenceDigest
    let itemDigests ← collect items (·.digest)
    let coverage ← canonicalDigest "qep.preexecution-item-coverage.v1"
      (.dict [("item_digests", .list (itemDigests.map fun d => .str d.value))])
    BatchPreexecutionSnapshot.new {
      batchId := inputs.batchId
      sourceBatchVersion := inputs.sourceBatchVersion
      scopeKind := .plannedUnmaterialized
      submissionDigest := submissionDigest
      preplanScopeDigest := none
      manifestDigest := some inventory.manifestDigest
      shardPlanVersion := some inventory.shardPlanVersion
      shardPlanDigest := some inventory.shardPlanDigest
      canonicalRunSetDigest := scope.canonicalRunSetDigest
      materializedRunAbsenceDigest := runAbsenceDigest
      executionAbsenceSnapshotDigest := executionAbsenceDigest
      taskStopFactDigests := inputs.stopFactDigests
      scopeItems := items
      itemCoverageProofDigest := some coverage }
  | none => do
    let preplan ← preplanScopeDigest inputs
    BatchPreexecutionSnapshot.new {
      batchId := inputs.batchId
      sourceBatchVersion := inputs.sourceBatchVersion
      scopeKind := .prePlan
      submissionDigest := submissionDigest
      preplanScopeDigest := some preplan
      manifestDigest := none
      shardPlanVersion := none
      shardPlanDigest := none
      canonicalRunSetDigest := none
      materializedRunAbsenceDigest := runAbsenceDigest
      executionAbsenceSnapshotDigest := executionAbsenceDigest
      taskStopFactDigests := inputs.stopFactDigests
      scopeItems := []
      itemCoverageProofDigest := none }

end QaRunner
