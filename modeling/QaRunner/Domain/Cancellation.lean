import QaRunner.Domain.RunFinalization
import QaRunner.Domain.Worker

/-! Cancellation intents owned by a Run or a Batch, the scope a Batch intent freezes, and the
trusted proof that an execution stopped. -/
namespace QaRunner
open Guarded

inductive CancellationSource where
  | userRequest
  | deadlineExceeded
  | policyEnforcement
  deriving DecidableEq, Repr

def CancellationSource.value : CancellationSource → String
  | .userRequest => "user_request"
  | .deadlineExceeded => "deadline_exceeded"
  | .policyEnforcement => "policy_enforcement"

inductive BatchCancellationScopeKind where
  | prePlan
  | frozenPlan
  deriving DecidableEq, Repr

def BatchCancellationScopeKind.value : BatchCancellationScopeKind → String
  | .prePlan => "pre_plan"
  | .frozenPlan => "frozen_plan"

inductive BatchCancellationResolutionKind where
  | notExecuted
  | runFanout
  deriving DecidableEq, Repr

def BatchCancellationResolutionKind.value : BatchCancellationResolutionKind → String
  | .notExecuted => "not_executed"
  | .runFanout => "run_fanout"

structure BatchCancellationScope.Fields where
  kind : BatchCancellationScopeKind
  preplanScopeDigest : Option Digest
  manifestDigest : Option Digest
  shardPlanVersion : Option ℤ
  shardPlanDigest : Option Digest
  canonicalRunSetDigest : Option Digest
  deriving DecidableEq

/-- A missing version is not an integer; a negative one is rejected too. -/
def requireSomeNonnegativeVersion (entity field : String) (value : Option ℤ) : Result Unit :=
  match value with
  | some n => requireNonnegativeVersion entity field n
  | none => invalidIf True entity field "not_integer"

theorem requireSomeNonnegativeVersion_eq_ok {entity field : String} {value : Option ℤ} {u : Unit} :
    requireSomeNonnegativeVersion entity field value = .ok u ↔ ∃ n, value = some n ∧ 0 ≤ n := by
  cases value <;> simp [requireSomeNonnegativeVersion, invalidIf_eq_ok,
    requireNonnegativeVersion_eq_ok]

def BatchCancellationScope.Fields.postInit (s : BatchCancellationScope.Fields) : Result Unit :=
  match s.kind with
  | .prePlan => do
    invalidIf s.preplanScopeDigest.isNone "batch_cancellation_scope" "preplan_scope_digest"
      "required_for_kind"
    each [("manifest_digest", s.manifestDigest.isSome),
      ("shard_plan_version", s.shardPlanVersion.isSome),
      ("shard_plan_digest", s.shardPlanDigest.isSome),
      ("canonical_run_set_digest", s.canonicalRunSetDigest.isSome)] fun f =>
      invalidIf (f.2 = true) "batch_cancellation_scope" f.1 "forbidden_for_kind"
  | .frozenPlan => do
    invalidIf s.preplanScopeDigest.isSome "batch_cancellation_scope" "preplan_scope_digest"
      "forbidden_for_kind"
    each [("manifest_digest", s.manifestDigest), ("shard_plan_digest", s.shardPlanDigest),
      ("canonical_run_set_digest", s.canonicalRunSetDigest)] fun f =>
      invalidIf f.2.isNone "batch_cancellation_scope" f.1 "required_for_kind"
    requireSomeNonnegativeVersion "batch_cancellation_scope" "shard_plan_version"
      s.shardPlanVersion

/-- Server-derived pre-plan or frozen-plan cancellation scope. -/
structure BatchCancellationScope extends BatchCancellationScope.Fields where
  accepted : toFields.postInit = .ok ()
  deriving DecidableEq

structure BatchCancellationScopeItem.Fields where
  batchId : Str
  batchCancellationIntentDigest : Digest
  manifestId : Str
  manifestDigest : Digest
  manifestItemKey : RunItemKey
  shardPlanVersion : ℤ
  shardPlanDigest : Digest
  resolutionKind : BatchCancellationResolutionKind
  runId : Option Str
  sourceRunVersion : Option ℤ
  recordedAt : Datetime
  deriving DecidableEq

/-- A missing string is not a string; a blank one is empty. -/
def requireSomeNonemptyString (entity field : String) (value : Option Str) : Result Unit :=
  match value with
  | some s => requireNonemptyString entity field s
  | none => invalidIf True entity field "not_string"

theorem requireSomeNonemptyString_eq_ok {entity field : String} {value : Option Str}
    {u : Unit} : requireSomeNonemptyString entity field value = .ok u ↔
      ∃ s, value = some s ∧ isBlank s = false := by
  cases value <;> simp [requireSomeNonemptyString, invalidIf_eq_ok, requireNonemptyString_eq_ok]

def BatchCancellationScopeItem.Fields.validateRunBinding (s : BatchCancellationScopeItem.Fields) :
    Result Unit :=
  match s.resolutionKind with
  | .notExecuted =>
    invalidIf (s.runId.isSome ∨ s.sourceRunVersion.isSome) "batch_cancellation_scope_item"
      "run_binding" "forbidden_for_kind"
  | .runFanout => do
    requireSomeNonemptyString "batch_cancellation_scope_item" "run_id" s.runId
    requireSomeNonnegativeVersion "batch_cancellation_scope_item" "source_run_version"
      s.sourceRunVersion

def BatchCancellationScopeItem.Fields.postInit (s : BatchCancellationScopeItem.Fields) :
    Result Unit := do
  requireNonemptyString "batch_cancellation_scope_item" "batch_id" s.batchId
  requireNonemptyString "batch_cancellation_scope_item" "manifest_id" s.manifestId
  invalidIf (s.manifestItemKey.manifestId ≠ s.manifestId) "batch_cancellation_scope_item"
    "manifest_item_key" "manifest_mismatch"
  requireNonnegativeVersion "batch_cancellation_scope_item" "shard_plan_version" s.shardPlanVersion
  s.validateRunBinding
  requireUtc "batch_cancellation_scope_item" "recorded_at" s.recordedAt

/-- Immutable `qep.batch-cancellation-scope-item.v1` delivery fact. -/
structure BatchCancellationScopeItem extends BatchCancellationScopeItem.Fields where
  accepted : toFields.postInit = .ok ()
  deriving DecidableEq

theorem BatchCancellationScopeItem.run_of_notExecuted {fact : BatchCancellationScopeItem}
    (hkind : fact.resolutionKind = .notExecuted) :
    fact.runId = none ∧ fact.sourceRunVersion = none := by
  have h := fact.accepted
  simp only [Fields.postInit, Fields.validateRunBinding, hkind, then_eq_ok, invalidIf_eq_ok,
    not_or, Option.not_isSome_iff_eq_none] at h
  exact h.2.2.2.2.1

namespace BatchCancellationScopeItem

def deliveryKey (s : BatchCancellationScopeItem) : Digest × RunItemKey :=
  (s.batchCancellationIntentDigest, s.manifestItemKey)

def canonicalPayload (s : BatchCancellationScopeItem) : Json :=
  .dict [("batch_id", .str s.batchId),
    ("batch_cancellation_intent_digest", .str s.batchCancellationIntentDigest.value),
    ("manifest_id", .str s.manifestId), ("manifest_digest", .str s.manifestDigest.value),
    ("manifest_item_key", s.manifestItemKey.canonicalPayload),
    ("shard_plan_version", .int s.shardPlanVersion),
    ("shard_plan_digest", .str s.shardPlanDigest.value),
    ("resolution_kind", .str s.resolutionKind.value), ("run_id", optionalString s.runId),
    ("source_run_version", optionalInt s.sourceRunVersion),
    ("delivery_key", .dict
      [("batch_cancellation_intent_digest", .str s.batchCancellationIntentDigest.value),
        ("manifest_item_key", s.manifestItemKey.canonicalPayload)]),
    ("recorded_at", .str s.recordedAt.isoformat)]

def scopeItemDigest (s : BatchCancellationScopeItem) : Result Digest :=
  canonicalDigest "qep.batch-cancellation-scope-item.v1" s.canonicalPayload

end BatchCancellationScopeItem

/-- The identity every scope item of one cancellation shares. -/
structure ScopeEnvelope where
  batchId : Str
  batchCancellationIntentDigest : Digest
  manifestId : Str
  manifestDigest : Digest
  shardPlanVersion : ℤ
  shardPlanDigest : Digest
  deriving DecidableEq

def BatchCancellationScopeItem.envelope (s : BatchCancellationScopeItem) : ScopeEnvelope where
  batchId := s.batchId
  batchCancellationIntentDigest := s.batchCancellationIntentDigest
  manifestId := s.manifestId
  manifestDigest := s.manifestDigest
  shardPlanVersion := s.shardPlanVersion
  shardPlanDigest := s.shardPlanDigest

/-- Keep the first item of each delivery key; a later one must repeat its digest. -/
def collapseReplays (kept : List BatchCancellationScopeItem) :
    List BatchCancellationScopeItem → Result (List BatchCancellationScopeItem)
  | [] => .ok kept
  | item :: items =>
    match kept.find? (fun k => k.deliveryKey = item.deliveryKey) with
    | some prior => do
      let stored ← prior.scopeItemDigest
      let received ← item.scopeItemDigest
      invalidIf (stored ≠ received) "batch_cancellation_scope_items" "items" "replay_conflict"
      collapseReplays kept items
    | none => do
      let _ ← item.scopeItemDigest
      collapseReplays (kept ++ [item]) items

/-- Collapse exact delivery replays and require one canonical fact per Manifest item. -/
def canonicalizeBatchCancellationScopeItems (envelope : ScopeEnvelope)
    (expectedItemKeys : List RunItemKey) (items : List BatchCancellationScopeItem) :
    Result (List BatchCancellationScopeItem) := do
  requireNonemptyString "batch_cancellation_scope_items" "batch_id" envelope.batchId
  requireNonemptyString "batch_cancellation_scope_items" "manifest_id" envelope.manifestId
  requireNonnegativeVersion "batch_cancellation_scope_items" "shard_plan_version"
    envelope.shardPlanVersion
  invalidIf (expectedItemKeys = []) "batch_cancellation_scope_items" "expected_item_keys" "invalid"
  invalidIf (¬ expectedItemKeys.Nodup) "batch_cancellation_scope_items" "expected_item_keys"
    "duplicate"
  invalidIf (items = []) "batch_cancellation_scope_items" "items" "invalid"
  let kept ← collapseReplays [] items
  let canonical := Sorting.sortOn (·.manifestItemKey) kept
  invalidIf (canonical.map (·.manifestItemKey) ≠ Sorting.sortOn id expectedItemKeys)
    "batch_cancellation_scope_items" "items" "manifest_coverage_mismatch"
  let first ← need canonical.head? (.crash .indexError)
  invalidIf (∃ item ∈ canonical, item.envelope ≠ first.envelope) "batch_cancellation_scope_items"
    "items" "envelope_mismatch"
  invalidIf (first.envelope ≠ envelope) "batch_cancellation_scope_items" "items"
    "authoritative_envelope_mismatch"
  return canonical

section
variable {envelope : ScopeEnvelope} {expectedItemKeys : List RunItemKey}
  {items kept kept' canonical canonical' : List BatchCancellationScopeItem}
  {fact : BatchCancellationScopeItem}

/-- Collapsing replays keeps the first delivery under every key, and only that one. -/
theorem collapseReplays_first (h : collapseReplays kept items = .ok kept')
    (hk : (kept.map (·.deliveryKey)).Nodup) : (kept'.map (·.deliveryKey)).Nodup ∧
      ∀ k, kept'.find? (fun i => i.deliveryKey = k) =
        (kept ++ items).find? (fun i => i.deliveryKey = k) := by
  induction items generalizing kept with
  | nil =>
    cases h
    exact ⟨hk, fun k => by rw [List.append_nil]⟩
  | cons item items ih =>
    rw [collapseReplays] at h
    split at h
    · next prior hprior =>
      simp only [bind_eq_ok, exists_unit] at h
      obtain ⟨_, -, _, -, -, hrest⟩ := h
      obtain ⟨hnodup, hfind⟩ := ih hrest hk
      refine ⟨hnodup, fun k => ?_⟩
      rw [hfind, List.find?_append, List.find?_append, List.find?_cons]
      by_cases hkey : item.deliveryKey = k
      · rw [← hkey, hprior]
        rfl
      · rw [decide_eq_false hkey]
    · next hprior =>
      simp only [bind_eq_ok] at h
      obtain ⟨_, -, hrest⟩ := h
      have hfresh := Keyed.find_none hprior
      obtain ⟨hnodup, hfind⟩ := ih hrest (by
        rw [List.map_append, List.map_singleton, List.nodup_append]
        refine ⟨hk, List.nodup_singleton _, ?_⟩
        rintro _ hold _ hnew rfl
        obtain ⟨i, hi, hsame⟩ := List.mem_map.mp hold
        exact hfresh i hi (hsame.trans (List.mem_singleton.mp hnew)))
      refine ⟨hnodup, fun k => ?_⟩
      rw [hfind, List.append_assoc, List.singleton_append]

/-- A canonical scope has one fact for each expected item, the first one delivered, and all of
them carry the authoritative envelope. -/
theorem canonicalizeBatchCancellationScopeItems_eq
    (h : canonicalizeBatchCancellationScopeItems envelope expectedItemKeys items = .ok canonical) :
    canonical.map (·.manifestItemKey) = Sorting.sortOn id expectedItemKeys ∧
      (∀ fact, fact ∈ canonical ↔
        items.find? (fun i => i.deliveryKey = fact.deliveryKey) = some fact) ∧
      ∀ fact ∈ canonical, fact.envelope = envelope := by
  simp only [canonicalizeBatchCancellationScopeItems, bind_eq_ok, exists_unit, invalidIf_eq_ok,
    need_eq_ok, pure_eq_ok, ne_eq, not_not, not_exists, not_and] at h
  obtain ⟨-, -, -, -, -, -, kept, hkept, hkeys, first, -, hsame, henvelope, rfl⟩ := h
  obtain ⟨hnodup, hfind⟩ := collapseReplays_first hkept List.nodup_nil
  refine ⟨hkeys, fun fact => ?_, fun fact hfact => (hsame fact hfact).trans henvelope⟩
  rw [Sorting.mem_sortOn, ← List.nil_append items, ← hfind]
  exact ⟨fun hfact => Keyed.find_of_mem hnodup hfact, List.mem_of_find?_eq_some⟩

/-- Facts under distinct delivery keys are no replays of one another. -/
theorem collapseReplays_of_nodup (hnodup : ((kept ++ items).map (·.deliveryKey)).Nodup)
    (hdigests : ∀ item ∈ items, ∃ d, item.scopeItemDigest = .ok d) :
    collapseReplays kept items = .ok (kept ++ items) := by
  induction items generalizing kept with
  | nil => rw [List.append_nil, collapseReplays]
  | cons item items ih =>
    rw [List.forall_mem_cons] at hdigests
    obtain ⟨d, hd⟩ := hdigests.1
    have hfresh : kept.find? (fun k => k.deliveryKey = item.deliveryKey) = none := by
      rw [List.find?_eq_none]
      intro k hk hsame
      rw [List.map_append, List.map_cons, List.nodup_append] at hnodup
      exact hnodup.2.2 _ (List.mem_map_of_mem hk) _ List.mem_cons_self (of_decide_eq_true hsame)
    have hsplit : kept ++ item :: items = kept ++ [item] ++ items := by
      rw [List.append_assoc, List.singleton_append]
    rw [hsplit] at hnodup ⊢
    simp only [collapseReplays, hfresh, hd, ok_bind]
    exact ih hnodup hdigests.2

/-- Every delivered fact is digested on the way. -/
theorem digest_of_collapse (h : collapseReplays kept items = .ok kept') :
    ∀ item ∈ items, ∃ d, item.scopeItemDigest = .ok d := by
  induction items generalizing kept with
  | nil => simp
  | cons item items ih =>
    rw [collapseReplays] at h
    rw [List.forall_mem_cons]
    split at h
    · simp only [bind_eq_ok, exists_unit] at h
      obtain ⟨_, -, d, hd, -, hrest⟩ := h
      exact ⟨⟨d, hd⟩, ih hrest⟩
    · simp only [bind_eq_ok] at h
      obtain ⟨d, hd, hrest⟩ := h
      exact ⟨⟨d, hd⟩, ih hrest⟩

theorem digest_of_canonical
    (h : canonicalizeBatchCancellationScopeItems envelope expectedItemKeys items = .ok canonical) :
    ∀ fact ∈ canonical, ∃ d, fact.scopeItemDigest = .ok d := by
  intro fact hf
  have hfirst := ((canonicalizeBatchCancellationScopeItems_eq h).2.1 fact).mp hf
  simp only [canonicalizeBatchCancellationScopeItems, bind_eq_ok, exists_unit] at h
  obtain ⟨-, -, -, -, -, -, kept, hkept, -⟩ := h
  exact digest_of_collapse hkept fact (List.mem_of_find?_eq_some hfirst)

/-- Facts that agree with a canonical scope on items and envelope form a canonical scope. -/
theorem canonicalize_of_canonical
    (h : canonicalizeBatchCancellationScopeItems envelope expectedItemKeys items = .ok canonical)
    (hkeys : canonical'.map (·.manifestItemKey) = canonical.map (·.manifestItemKey))
    (henvelope : ∀ fact ∈ canonical', fact.envelope = envelope)
    (hdigests : ∀ fact ∈ canonical', ∃ d, fact.scopeItemDigest = .ok d) :
    canonicalizeBatchCancellationScopeItems envelope expectedItemKeys canonical' =
      .ok canonical' := by
  rw [(canonicalizeBatchCancellationScopeItems_eq h).1] at hkeys
  simp only [canonicalizeBatchCancellationScopeItems, bind_eq_ok, exists_unit, invalidIf_eq_ok,
    need_eq_ok, pure_eq_ok, ne_eq, not_not] at h ⊢
  obtain ⟨hbatch, hmanifest, hversion, hne, hnodup, -⟩ := h
  have hsorted : Sorting.sortOn (·.manifestItemKey) canonical' = canonical' := by
    apply Sorting.sortOn_of_ordered
    rw [hkeys]
    exact (Sorting.sortOn_eq_self (Sorting.pairwise_sortOn id expectedItemKeys)).symm
  have hitems : canonical' ≠ [] := by
    rintro rfl
    exact hne (List.Perm.eq_nil (hkeys ▸ Sorting.sortOn_perm id expectedItemKeys).symm)
  have hdelivery : (canonical'.map (·.deliveryKey)).Nodup := by
    apply List.Nodup.of_map Prod.snd
    rw [List.map_map]
    exact hkeys ▸ (Sorting.sortOn_perm id expectedItemKeys).nodup_iff.mpr hnodup
  obtain ⟨first, hfirst⟩ := Option.ne_none_iff_exists'.mp (mt List.head?_eq_none_iff.mp hitems)
  have hmem := List.mem_of_head? hfirst
  refine ⟨hbatch, hmanifest, hversion, hne, hnodup, hitems, canonical',
    collapseReplays_of_nodup hdelivery hdigests, ?_, first, ?_, ?_, henvelope first hmem, hsorted⟩
  · rw [hsorted]
    exact hkeys
  · rw [hsorted]
    exact hfirst
  · rintro ⟨fact, hf, hne⟩
    rw [hsorted] at hf
    exact hne ((henvelope fact hf).trans (henvelope first hmem).symm)

end

structure BatchCancellationIntent.Fields where
  batchId : Str
  projectId : Str
  suiteRevisionId : Str
  sourceBatchVersion : ℤ
  idempotencyKey : Str
  source : CancellationSource
  actorId : Str
  reason : Str
  authorizationDigest : Digest
  scope : BatchCancellationScope
  recordedAt : Datetime
  deriving DecidableEq

def BatchCancellationIntent.Fields.postInit (i : BatchCancellationIntent.Fields) :
    Result Unit := do
  each [("batch_id", i.batchId), ("project_id", i.projectId),
    ("suite_revision_id", i.suiteRevisionId), ("idempotency_key", i.idempotencyKey),
    ("actor_id", i.actorId), ("reason", i.reason)] fun f =>
    requireNonemptyString "batch_cancellation_intent" f.1 f.2
  requireNonnegativeVersion "batch_cancellation_intent" "source_batch_version" i.sourceBatchVersion
  requireUtc "batch_cancellation_intent" "recorded_at" i.recordedAt

/-- Immutable `qep.batch-cancellation-intent.v1` fact. -/
structure BatchCancellationIntent extends BatchCancellationIntent.Fields where
  accepted : toFields.postInit = .ok ()
  deriving DecidableEq

/-- Bind caller-controlled identity while excluding server-derived metadata. -/
def BatchCancellationIntent.requestDigest (i : BatchCancellationIntent) : Result Digest :=
  canonicalDigest "qep.batch-cancellation-request.v1"
    (.dict [("batch_id", .str i.batchId), ("source_batch_version", .int i.sourceBatchVersion),
      ("idempotency_key", .str i.idempotencyKey), ("source", .str i.source.value),
      ("actor_id", .str i.actorId), ("reason", .str i.reason)])

/-- Bind request, authority, authoritative scope, and server record time. -/
def BatchCancellationIntent.digest (i : BatchCancellationIntent) : Result Digest := do
  let request ← i.requestDigest
  canonicalDigest "qep.batch-cancellation-intent.v1"
    (.dict [("batch_id", .str i.batchId), ("project_id", .str i.projectId),
      ("suite_revision_id", .str i.suiteRevisionId),
      ("source_batch_version", .int i.sourceBatchVersion),
      ("request_digest", .str request.value),
      ("authorization_digest", .str i.authorizationDigest.value),
      ("scope_kind", .str i.scope.kind.value),
      ("preplan_scope_digest", optionalDigestValue i.scope.preplanScopeDigest),
      ("manifest_digest", optionalDigestValue i.scope.manifestDigest),
      ("shard_plan_version", optionalInt i.scope.shardPlanVersion),
      ("shard_plan_digest", optionalDigestValue i.scope.shardPlanDigest),
      ("canonical_run_set_digest", optionalDigestValue i.scope.canonicalRunSetDigest),
      ("recorded_at", .str i.recordedAt.isoformat)])

structure CancellationIntent.Fields where
  runId : Str
  idempotencyKey : Str
  source : CancellationSource
  actorId : Str
  reason : Str
  recordedAt : Datetime
  deriving DecidableEq

def CancellationIntent.Fields.postInit (i : CancellationIntent.Fields) : Result Unit := do
  each [("run_id", i.runId), ("idempotency_key", i.idempotencyKey), ("actor_id", i.actorId),
    ("reason", i.reason)] fun f => requireNonemptyString "cancellation_intent" f.1 f.2
  requireUtc "cancellation_intent" "recorded_at" i.recordedAt

/-- A request to stop work, distinct from a proven cancellation outcome. -/
structure CancellationIntent extends CancellationIntent.Fields where
  accepted : toFields.postInit = .ok ()
  deriving DecidableEq

def CancellationIntent.new : CancellationIntent.Fields → Result CancellationIntent :=
  construct CancellationIntent.Fields.postInit CancellationIntent.mk

/-- Bind replay identity to caller-controlled cancellation content. -/
def CancellationIntent.requestDigest (i : CancellationIntent) : Result Digest :=
  canonicalDigest "qep.cancellation-request.v1"
    (.dict [("run_id", .str i.runId), ("idempotency_key", .str i.idempotencyKey),
      ("source", .str i.source.value), ("actor_id", .str i.actorId), ("reason", .str i.reason)])

/-- Digest the immutable cancellation fact including server record time. -/
def CancellationIntent.digest (i : CancellationIntent) : Result Digest := do
  let request ← i.requestDigest
  canonicalDigest "qep.cancellation-intent.v1"
    (.dict [("request_digest", .str request.value), ("recorded_at", .str i.recordedAt.isoformat)])

structure TrustedCancellationStop.Fields where
  runId : Str
  attemptId : Str
  fence : ℤ
  worker : WorkerRef
  cancellationIntentDigest : Digest
  sourceEventId : Str
  processStoppedAt : Datetime
  sutAccessStoppedAt : Datetime
  recordedAt : Datetime
  deriving DecidableEq

def TrustedCancellationStop.Fields.postInit (s : TrustedCancellationStop.Fields) :
    Result Unit := do
  each [("run_id", s.runId), ("attempt_id", s.attemptId), ("source_event_id", s.sourceEventId)]
    fun f => requireNonemptyString "trusted_cancellation_stop" f.1 f.2
  requirePositiveInteger "trusted_cancellation_stop" "fence" s.fence
  each [("process_stopped_at", s.processStoppedAt), ("sut_access_stopped_at", s.sutAccessStoppedAt),
    ("recorded_at", s.recordedAt)] fun f => requireUtc "trusted_cancellation_stop" f.1 f.2
  invalidIf (s.recordedAt < s.processStoppedAt.later s.sutAccessStoppedAt)
    "trusted_cancellation_stop" "recorded_at" "before_stop_facts"

/-- Control-plane proof that execution and approved SUT access both stopped. -/
structure TrustedCancellationStop extends TrustedCancellationStop.Fields where
  accepted : toFields.postInit = .ok ()
  deriving DecidableEq

/-- The earlier of the two stop instants. -/
def TrustedCancellationStop.firstStop (s : TrustedCancellationStop) : Datetime :=
  s.processStoppedAt.earlier s.sutAccessStoppedAt

/-- Bind the complete cancellation convergence proof. -/
def TrustedCancellationStop.digest (s : TrustedCancellationStop) : Result Digest :=
  canonicalDigest "qep.trusted-cancellation-stop.v1"
    (.dict [("run_id", .str s.runId), ("attempt_id", .str s.attemptId), ("fence", .int s.fence),
      ("worker", s.worker.payload),
      ("cancellation_intent_digest", .str s.cancellationIntentDigest.value),
      ("source_event_id", .str s.sourceEventId),
      ("process_stopped_at", .str s.processStoppedAt.isoformat),
      ("sut_access_stopped_at", .str s.sutAccessStoppedAt.isoformat),
      ("recorded_at", .str s.recordedAt.isoformat)])

end QaRunner
