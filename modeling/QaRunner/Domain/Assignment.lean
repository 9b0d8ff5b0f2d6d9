import QaRunner.Domain.Worker

/-! Assignment reservation bound to one Worker generation and execution spec. -/
namespace QaRunner
open Guarded

inductive AssignmentState where
  | offered
  | claimed
  | committed
  | expiredPrestart
  | releasedPrestart
  | cancelledPrestart
  deriving DecidableEq, Repr

inductive AssignmentClosureKind where
  | expiredPrestart
  | releasedPrestart
  | cancelledPrestart
  deriving DecidableEq, Repr

def AssignmentClosureKind.value : AssignmentClosureKind → String
  | .expiredPrestart => "expired_prestart"
  | .releasedPrestart => "released_prestart"
  | .cancelledPrestart => "cancelled_prestart"

/-- The state a reservation enters when it is closed for this reason. -/
def AssignmentClosureKind.state : AssignmentClosureKind → AssignmentState
  | .expiredPrestart => .expiredPrestart
  | .releasedPrestart => .releasedPrestart
  | .cancelledPrestart => .cancelledPrestart

/-- The closure kind a state stands for, if it is a closed state. -/
def AssignmentState.terminalKind : AssignmentState → Option AssignmentClosureKind
  | .expiredPrestart => some .expiredPrestart
  | .releasedPrestart => some .releasedPrestart
  | .cancelledPrestart => some .cancelledPrestart
  | _ => none

structure AssignmentClosure.Fields where
  assignmentId : Str
  idempotencyKey : Str
  kind : AssignmentClosureKind
  effectiveAt : Datetime
  recordedAt : Datetime
  worker : Option WorkerRef
  cancellationIntentDigest : Option Digest := none
  deriving DecidableEq

def AssignmentClosure.Fields.validateKind (c : AssignmentClosure.Fields) : Result Unit :=
  match c.kind with
  | .expiredPrestart => do
    invalidIf c.worker.isSome "assignment_closure" "worker" "forbidden_for_kind"
    invalidIf c.cancellationIntentDigest.isSome "assignment_closure" "cancellation_intent_digest"
      "forbidden_for_kind"
  | .releasedPrestart => do
    invalidIf c.worker.isNone "assignment_closure" "worker" "required_for_kind"
    invalidIf c.cancellationIntentDigest.isSome "assignment_closure" "cancellation_intent_digest"
      "forbidden_for_kind"
  | .cancelledPrestart => do
    invalidIf c.worker.isSome "assignment_closure" "worker" "forbidden_for_kind"
    invalidIf c.cancellationIntentDigest.isNone "assignment_closure" "cancellation_intent_digest"
      "required_for_kind"

def AssignmentClosure.Fields.postInit (c : AssignmentClosure.Fields) : Result Unit := do
  requireNonemptyString "assignment_closure" "assignment_id" c.assignmentId
  requireNonemptyString "assignment_closure" "idempotency_key" c.idempotencyKey
  requireUtc "assignment_closure" "effective_at" c.effectiveAt
  requireUtc "assignment_closure" "recorded_at" c.recordedAt
  invalidIf (c.recordedAt < c.effectiveAt) "assignment_closure" "recorded_at" "before_effective_at"
  c.validateKind

/-- Immutable, idempotent fact that closes one pre-commit reservation. -/
structure AssignmentClosure extends AssignmentClosure.Fields where
  accepted : toFields.postInit = .ok ()
  deriving DecidableEq

def AssignmentClosure.new : AssignmentClosure.Fields → Result AssignmentClosure :=
  construct AssignmentClosure.Fields.postInit AssignmentClosure.mk

/-- Bind idempotency to caller-controlled content, excluding server time. -/
def AssignmentClosure.requestDigest (c : AssignmentClosure) : Result Digest :=
  canonicalDigest "qep.assignment-closure-request.v1"
    (.dict [("assignment_id", .str c.assignmentId), ("idempotency_key", .str c.idempotencyKey),
      ("kind", .str c.kind.value), ("worker", Json.opt WorkerRef.payload c.worker)])

structure Assignment.Fields where
  id : Str
  worker : WorkerRef
  specDigest : Digest
  state : AssignmentState
  offeredAt : Datetime
  expiresAt : Datetime
  claimedAt : Option Datetime := none
  committedAt : Option Datetime := none
  retryIntentId : Option Str := none
  closure : Option AssignmentClosure := none
  deriving DecidableEq

/-- Which timestamps a reservation that is still open or committed may carry. -/
def Assignment.Fields.validateOpen (a : Assignment.Fields) : Result Unit := do
  invalidIf a.closure.isSome "assignment" "closure" "forbidden_for_state"
  invalidIf (a.state = .offered ∧ (a.claimedAt.isSome ∨ a.committedAt.isSome)) "assignment"
    "claimed_at" "forbidden_for_state"
  invalidIf (a.state = .claimed ∧ (a.claimedAt.isNone ∨ a.committedAt.isSome)) "assignment"
    "claimed_at" "required_for_state"
  invalidIf (a.state = .committed ∧ a.committedAt.isNone) "assignment" "committed_at"
    "required_for_state"

def Assignment.Fields.validateClosure (a : Assignment.Fields) (kind : AssignmentClosureKind)
    (closure : AssignmentClosure) : Result Unit := do
  invalidIf (closure.assignmentId ≠ a.id) "assignment" "closure" "assignment_mismatch"
  invalidIf (closure.kind ≠ kind) "assignment" "closure" "state_mismatch"
  invalidIf (closure.kind = .expiredPrestart ∧ closure.effectiveAt ≠ a.expiresAt) "assignment"
    "closure" "expiry_effective_at_mismatch"
  invalidIf (closure.kind = .releasedPrestart ∧ closure.worker ≠ some a.worker) "assignment"
    "closure" "worker_mismatch"
  whenever (closure.kind ≠ .expiredPrestart) do
    invalidIf (∃ claimed ∈ a.claimedAt, closure.effectiveAt < claimed) "assignment" "closure"
      "before_claimed_at"
    invalidIf (closure.effectiveAt < a.offeredAt) "assignment" "closure" "before_offered_at"
    invalidIf (a.expiresAt ≤ closure.effectiveAt) "assignment" "closure" "at_or_after_expiry"

def Assignment.Fields.validateClosed (a : Assignment.Fields) (kind : AssignmentClosureKind) :
    Result Unit := do
  invalidIf a.committedAt.isSome "assignment" "committed_at" "forbidden_for_state"
  let closure ← need a.closure (.domainValidation "assignment" "closure" "required_for_state")
  a.validateClosure kind closure

def Assignment.Fields.postInit (a : Assignment.Fields) : Result Unit := do
  requireNonemptyString "assignment" "id" a.id
  requireUtc "assignment" "offered_at" a.offeredAt
  requireUtc "assignment" "expires_at" a.expiresAt
  invalidIf (a.expiresAt ≤ a.offeredAt) "assignment" "expires_at" "not_after_offered_at"
  whenSome a.claimedAt (requireUtc "assignment" "claimed_at")
  whenSome a.committedAt (requireUtc "assignment" "committed_at")
  whenSome a.claimedAt fun claimed =>
    invalidIf (¬ (a.offeredAt ≤ claimed ∧ claimed < a.expiresAt)) "assignment" "claimed_at"
      "outside_offer_window"
  whenSome a.committedAt fun committed =>
    invalidIf (¬ ∃ claimed ∈ a.claimedAt, claimed ≤ committed ∧ committed < a.expiresAt)
      "assignment" "committed_at" "outside_claim_window"
  whenSome a.retryIntentId fun intentId =>
    invalidIf (isBlank intentId) "assignment" "retry_intent_id" "invalid"
  match a.state.terminalKind with
  | none => a.validateOpen
  | some kind => a.validateClosed kind

/-- Immutable reservation for a Run on a specific Worker generation. -/
structure Assignment extends Assignment.Fields where
  accepted : toFields.postInit = .ok ()
  deriving DecidableEq

def Assignment.new : Assignment.Fields → Result Assignment :=
  construct Assignment.Fields.postInit Assignment.mk

/-- Create an offered Assignment. -/
def Assignment.offer (assignmentId : Str) (worker : WorkerRef) (specDigest : Digest)
    (offeredAt expiresAt : Datetime) (retryIntentId : Option Str) : Result Assignment :=
  Assignment.new {
    id := assignmentId
    worker, specDigest, offeredAt, expiresAt, retryIntentId
    state := .offered }

/-- Accept the offer for its bound Worker generation. -/
def Assignment.claim (a : Assignment) (claimedAt : Datetime) : Result Assignment := do
  invalidIf (a.state ≠ .offered) "assignment" "state" "transition_not_allowed"
  Assignment.new { a.toFields with state := .claimed, claimedAt := some claimedAt }

/-- Bind the claimed Assignment to a durable Attempt. -/
def Assignment.commit (a : Assignment) (committedAt : Datetime) : Result Assignment := do
  invalidIf (a.state ≠ .claimed) "assignment" "state" "transition_not_allowed"
  Assignment.new { a.toFields with state := .committed, committedAt := some committedAt }

/-- End an offered or claimed reservation without creating an Attempt. -/
def Assignment.closePrestart (a : Assignment) (closure : AssignmentClosure) :
    Result Assignment := do
  invalidIf (a.state ≠ .offered ∧ a.state ≠ .claimed) "assignment" "state" "transition_not_allowed"
  Assignment.new { a.toFields with state := closure.kind.state, closure := some closure }

end QaRunner
