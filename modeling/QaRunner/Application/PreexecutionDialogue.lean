import QaRunner.Application.PreexecutionProof
import QaRunner.Lib.Interaction

/-! The closure proof as a dialogue with its gateway, which may answer each question with anything,
and the same question differently when it is asked again. -/
namespace QaRunner
open Guarded Interaction

/-- The questions the closure proof asks and the acts it requests. -/
inductive PreexecutionProofCall where
  | scanExecutionChildren (batchId : Str)
  | quarantineIntegrityFailure (batchId : Str)
  | readSealedTaskInventory (batchId : Str)
  | readCurrentTaskLedgerPosition (batchId : Str)
  | isTrustedInventoryIssuer (issuerId : Str)
  | readTrustedTaskStops (batchId : Str)
  | isTrustedStopIssuer (issuerId : Str)
  | readSealedPlannedScopeInventory (batchId : Str)
  | isTrustedPlannedScopeIssuer (issuerId : Str)
  | assembleZeroChildSnapshot (inputs : ZeroChildSnapshotInputs)

namespace PreexecutionProofCall

/-- What the gateway may answer. -/
abbrev Answer : PreexecutionProofCall → Type
  | scanExecutionChildren _ => ExecutionChildInventory
  | quarantineIntegrityFailure _ => Unit
  | readSealedTaskInventory _ => Option SealedTaskInventory
  | readCurrentTaskLedgerPosition _ => TaskLedgerPosition
  | isTrustedInventoryIssuer _ => Bool
  | readTrustedTaskStops _ => List TrustedTaskStop
  | isTrustedStopIssuer _ => Bool
  | readSealedPlannedScopeInventory _ => Option SealedPlannedScopeInventory
  | isTrustedPlannedScopeIssuer _ => Bool
  | assembleZeroChildSnapshot _ => BatchPreexecutionSnapshot

/-- The call changes nothing and concludes nothing. -/
def isQuestion : PreexecutionProofCall → Bool
  | quarantineIntegrityFailure _ => false
  | assembleZeroChildSnapshot _ => false
  | _ => true

def isQuarantine : PreexecutionProofCall → Bool
  | quarantineIntegrityFailure _ => true
  | _ => false

end PreexecutionProofCall

abbrev PreexecutionDialogue : Type → Type :=
  Prog PreexecutionProofCall PreexecutionProofCall.Answer Failure

abbrev PreexecutionTrace : Type := Trace PreexecutionProofCall.Answer

namespace PreexecutionDialogue
open Prog (lift)

variable (command : ProvePreexecutionClosureCommand)

def ask (call : PreexecutionProofCall) : PreexecutionDialogue call.Answer := .call call

/-- Quarantine the Batch and raise when the facts are impossible. -/
def quarantineIf (c : Prop) [Decidable c] : PreexecutionDialogue Unit :=
  if c then do
    ask (.quarantineIntegrityFailure command.batchId)
    lift (.error (integrityFailure command.batchId))
  else
    lift (.ok ())

/-- The seal is at the current ledger position, trusted, and binds its tasks in order. -/
def requireSealedTasks (inventory : SealedTaskInventory) : PreexecutionDialogue Unit := do
  quarantineIf command
    (inventory.ledgerVersion < 1 ∨ inventory.highWatermark < 0 ∨ inventory.taskCount < 0)
  let position ← ask (.readCurrentTaskLedgerPosition command.batchId)
  lift (raiseIf (position.ledgerVersion ≠ inventory.ledgerVersion ∨
    position.highWatermark ≠ inventory.highWatermark) closureNotReady)
  let issuerTrusted ← ask (.isTrustedInventoryIssuer inventory.issuerId)
  quarantineIf command (inventory.batchId ≠ command.batchId ∨
    inventory.projectId ≠ command.projectId ∨
    inventory.suiteRevisionId ≠ command.suiteRevisionId ∨ issuerTrusted = false)
  quarantineIf command (inventory.taskCount ≠ inventory.tasks.length ∨ ¬ inventory.tasks.Nodup ∨
    inventory.tasks ≠ Sorting.sortOn PreexecutionTaskKey.order inventory.tasks)
  let digest ← lift (Application.lift (canonicalTaskSetDigest inventory.tasks))
  quarantineIf command (inventory.taskSetDigest ≠ digest)

/-- Ask about the issuer of a stop, then hold the stop against the command. -/
def requireTaskStop (stop : TrustedTaskStop) : PreexecutionDialogue Unit := do
  let issuerTrusted ← ask (.isTrustedStopIssuer stop.issuerId)
  quarantineIf command (stop.batchId ≠ command.batchId ∨ stop.projectId ≠ command.projectId ∨
    issuerTrusted = false)

/-- One trusted stop for every sealed task, in the same order. -/
def requireTaskStops (inventory : SealedTaskInventory) :
    PreexecutionDialogue (List TrustedTaskStop) := do
  let stops ← ask (.readTrustedTaskStops command.batchId)
  Prog.each stops (requireTaskStop command)
  lift (raiseIf (inventory.tasks ≠ stops.map (·.key)) closureNotReady)
  return stops

/-- A frozen plan needs the sealed inventory of that plan and an empty Run set. -/
def requirePlannedInventory (scope : BatchCancellationScope) :
    PreexecutionDialogue SealedPlannedScopeInventory := do
  let found ← ask (.readSealedPlannedScopeInventory command.batchId)
  let planned ← lift (need found closureNotReady)
  let issuerTrusted ← ask (.isTrustedPlannedScopeIssuer planned.issuerId)
  let itemKeys := Sorting.sortOn (fun x => x) planned.manifestItemKeys
  quarantineIf command (issuerTrusted = false ∨ planned.batchId ≠ command.batchId ∨
    planned.projectId ≠ command.projectId ∨ planned.suiteRevisionId ≠ command.suiteRevisionId ∨
    some planned.manifestDigest ≠ scope.manifestDigest ∨
    some planned.shardPlanVersion ≠ scope.shardPlanVersion ∨
    some planned.shardPlanDigest ≠ scope.shardPlanDigest)
  let noRuns ← lift (Application.lift (canonicalMaterializedRunSetDigest command.batchId []))
  quarantineIf command (scope.canonicalRunSetDigest ≠ some noRuns ∨
    planned.itemCount ≠ itemKeys.length ∨ itemKeys = [] ∨ planned.manifestItemKeys ≠ itemKeys ∨
    ¬ itemKeys.Nodup ∨ ("" : Str) ∈ itemKeys ∨ command.terminalKind = none ∨
    command.commandDigest = none)
  return planned

def requirePlannedScopeInventory : PreexecutionDialogue (Option SealedPlannedScopeInventory) :=
  match command.scope with
  | some scope =>
    if scope.kind = .frozenPlan then do
      let planned ← requirePlannedInventory command scope
      return some planned
    else
      return none
  | none => return none

/-- What the snapshot is assembled from. -/
def snapshotInputs (inventory : SealedTaskInventory) (stops : List TrustedTaskStop)
    (planned : Option SealedPlannedScopeInventory) : ZeroChildSnapshotInputs where
  batchId := inventory.batchId
  projectId := inventory.projectId
  suiteRevisionId := inventory.suiteRevisionId
  sourceBatchVersion := command.sourceBatchVersion
  ledgerVersion := inventory.ledgerVersion
  highWatermark := inventory.highWatermark
  taskSetDigest := inventory.taskSetDigest
  stopFactDigests := stops.map (·.digest)
  scope := command.scope
  terminalKind := command.terminalKind
  commandDigest := command.commandDigest
  plannedInventory := planned

/-- Prove the seal and what belongs to it, and assemble the snapshot. -/
def proveSealed (inventory : SealedTaskInventory) : PreexecutionDialogue PreexecutionProof := do
  requireSealedTasks command inventory
  let stops ← requireTaskStops command inventory
  let planned ← requirePlannedScopeInventory command
  let snapshot ← ask (.assembleZeroChildSnapshot (snapshotInputs command inventory stops planned))
  return .zeroChild snapshot

/-- Prove that nothing of the Batch executes or runs a task. -/
def proveZeroChild : PreexecutionDialogue PreexecutionProof := do
  let found ← ask (.readSealedTaskInventory command.batchId)
  let inventory ← lift (need found closureNotReady)
  proveSealed command inventory

/-- Apply the fixed child-scan then completeness-proof ordering. -/
def execute : PreexecutionDialogue PreexecutionProof := do
  let children ← ask (.scanExecutionChildren command.batchId)
  quarantineIf command children.orphanAuthority
  if children.runIds = [] then
    proveZeroChild command
  else do
    let runIds := Sorting.sortOn (fun x => x) children.runIds
    let digest ← lift (Application.lift
      (canonicalMaterializedRunSetDigest command.batchId runIds))
    return .materialized ⟨command.batchId, runIds, digest⟩

end PreexecutionDialogue

/-- A gateway that answers by what it is asked. -/
def PreexecutionProofGateway.respond (gateway : PreexecutionProofGateway) :
    (call : PreexecutionProofCall) → Application call.Answer
  | .scanExecutionChildren batchId => gateway.scanExecutionChildren batchId
  | .quarantineIntegrityFailure _ => .ok ()
  | .readSealedTaskInventory batchId => gateway.readSealedTaskInventory batchId
  | .readCurrentTaskLedgerPosition batchId => gateway.readCurrentTaskLedgerPosition batchId
  | .isTrustedInventoryIssuer issuerId => .ok (gateway.isTrustedInventoryIssuer issuerId)
  | .readTrustedTaskStops batchId => gateway.readTrustedTaskStops batchId
  | .isTrustedStopIssuer issuerId => .ok (gateway.isTrustedStopIssuer issuerId)
  | .readSealedPlannedScopeInventory batchId => gateway.readSealedPlannedScopeInventory batchId
  | .isTrustedPlannedScopeIssuer issuerId => .ok (gateway.isTrustedPlannedScopeIssuer issuerId)
  | .assembleZeroChildSnapshot inputs => gateway.assembleZeroChildSnapshot inputs

namespace PreexecutionDialogue
open Prog

variable {gateway : PreexecutionProofGateway} {command : ProvePreexecutionClosureCommand}

theorem eval_ask (c : PreexecutionProofCall) :
    (ask c).eval gateway.respond = gateway.respond c := eval_call c

@[simp] theorem eval_quarantineIf {c : Prop} [Decidable c] :
    (quarantineIf command c).eval gateway.respond =
      raiseIf c (integrityFailure command.batchId) := by
  by_cases h : c
  · rw [quarantineIf, if_pos h, raiseIf, if_pos h]
    rfl
  · rw [quarantineIf, if_neg h, raiseIf, if_neg h]
    rfl

theorem eval_requireSealedTasks (inventory : SealedTaskInventory) :
    (requireSealedTasks command inventory).eval gateway.respond =
      ProvePreexecutionClosure.requireSealedTasks gateway command inventory := by
  simp only [requireSealedTasks, ProvePreexecutionClosure.requireSealedTasks, eval_bind,
    eval_quarantineIf, eval_ask (.readCurrentTaskLedgerPosition _),
    eval_ask (.isTrustedInventoryIssuer _), eval_lift]
  rfl

theorem eval_requireTaskStop (stops : List TrustedTaskStop) :
    (Prog.each stops (requireTaskStop command)).eval gateway.respond =
      Guarded.each stops fun stop => raiseIf (stop.batchId ≠ command.batchId ∨
        stop.projectId ≠ command.projectId ∨ gateway.isTrustedStopIssuer stop.issuerId = false)
        (integrityFailure command.batchId) := by
  induction stops with
  | nil => rfl
  | cons stop stops ih =>
    simp only [Prog.each, Guarded.each, eval_bind, ih, requireTaskStop,
      eval_ask (.isTrustedStopIssuer _), eval_quarantineIf]
    rfl

theorem eval_requireTaskStops (inventory : SealedTaskInventory) :
    (requireTaskStops command inventory).eval gateway.respond =
      ProvePreexecutionClosure.requireTaskStops gateway command inventory := by
  simp only [requireTaskStops, ProvePreexecutionClosure.requireTaskStops, eval_bind,
    eval_ask (.readTrustedTaskStops _), eval_lift, eval_pure, eval_requireTaskStop]
  rfl

theorem eval_requirePlannedScopeInventory :
    (requirePlannedScopeInventory command).eval gateway.respond =
      ProvePreexecutionClosure.requirePlannedScopeInventory gateway command := by
  unfold requirePlannedScopeInventory ProvePreexecutionClosure.requirePlannedScopeInventory
  cases command.scope with
  | none => rfl
  | some scope =>
    by_cases h : scope.kind = .frozenPlan
    · simp only [if_pos h, requirePlannedInventory,
        ProvePreexecutionClosure.requirePlannedInventory, eval_bind, eval_lift,
        eval_ask (.readSealedPlannedScopeInventory _),
        eval_ask (.isTrustedPlannedScopeIssuer _), eval_quarantineIf, eval_pure]
      rfl
    · simp only [if_neg h]
      rfl

theorem eval_proveZeroChild : (proveZeroChild command).eval gateway.respond =
    ProvePreexecutionClosure.proveZeroChild gateway command := by
  simp only [proveZeroChild, proveSealed, ProvePreexecutionClosure.proveZeroChild, eval_bind,
    eval_lift,
    eval_ask (.readSealedTaskInventory _), eval_ask (.assembleZeroChildSnapshot _), eval_pure,
    eval_requireSealedTasks, eval_requireTaskStops, eval_requirePlannedScopeInventory]
  rfl

/-- Held with a gateway that answers by what it is asked, the dialogue is the command. -/
theorem eval_execute : (execute command).eval gateway.respond =
    ProvePreexecutionClosure.execute gateway command := by
  have hchildren : ∀ children : ExecutionChildInventory,
      (if children.runIds = [] then proveZeroChild command else do
        let runIds := Sorting.sortOn (fun x => x) children.runIds
        let digest ← lift (Application.lift
          (canonicalMaterializedRunSetDigest command.batchId runIds))
        return PreexecutionProof.materialized ⟨command.batchId, runIds, digest⟩).eval
          gateway.respond =
      if children.runIds = [] then ProvePreexecutionClosure.proveZeroChild gateway command else do
        let runIds := Sorting.sortOn (fun x => x) children.runIds
        let digest ← Application.lift (canonicalMaterializedRunSetDigest command.batchId runIds)
        return .materialized ⟨command.batchId, runIds, digest⟩ := by
    intro children
    by_cases h : children.runIds = []
    · rw [if_pos h, if_pos h]
      exact eval_proveZeroChild
    · simp only [if_neg h, eval_bind, eval_lift, eval_pure]
      rfl
  simp only [execute, ProvePreexecutionClosure.execute, eval_bind, eval_quarantineIf,
    eval_ask (.scanExecutionChildren _), hchildren]
  rfl

end PreexecutionDialogue
end QaRunner
