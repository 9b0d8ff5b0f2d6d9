import QaRunner.Domain.Unknown

/-! The review-start policy for an unknown observation: the request and its deadline, the facts
an evaluation derives at an instant, and the checks a stored evaluation passes. Proved: the exact
verdict of the clock, and which stored evaluations the policy could have derived. -/
namespace QaRunner
open Guarded

/-- Twenty-four hours in microseconds. -/
def reviewStartSla : ℤ := 86400000000

inductive UnknownReviewRole where
  | suiteOwner
  | platformOnCall
  | reviewer
  deriving DecidableEq, Repr

inductive UnknownReviewStatus where
  | pending
  | started
  | slaBreached
  deriving DecidableEq, Repr

inductive UnknownReviewNotificationKind where
  | suiteOwner
  | platformOnCall
  deriving DecidableEq, Repr

inductive UnknownReviewAuditKind where
  | security
  | operations
  deriving DecidableEq, Repr

structure UnknownReviewActor.Fields where
  actorId : Str
  role : UnknownReviewRole
  deriving DecidableEq

def UnknownReviewActor.Fields.postInit (a : UnknownReviewActor.Fields) : Result Unit :=
  requireNonemptyString "unknown_review_actor" "actor_id" a.actorId

structure UnknownReviewActor extends UnknownReviewActor.Fields where
  accepted : toFields.postInit = .ok ()
  deriving DecidableEq

structure UnknownReviewRequest.Fields where
  runId : Str
  attemptId : Str
  observationDigest : Digest
  triggeringActorId : Str
  suiteOwnerActorId : Str
  platformOnCallActorId : Str
  requestedAt : Datetime
  reviewStartDeadline : Datetime
  deriving DecidableEq

def UnknownReviewRequest.Fields.postInit (r : UnknownReviewRequest.Fields) : Result Unit := do
  requireNonemptyString "unknown_review_request" "run_id" r.runId
  requireNonemptyString "unknown_review_request" "attempt_id" r.attemptId
  each [("triggering_actor_id", r.triggeringActorId),
    ("suite_owner_actor_id", r.suiteOwnerActorId),
    ("platform_on_call_actor_id", r.platformOnCallActorId)] fun f =>
    requireNonemptyString "unknown_review_request" f.1 f.2
  invalidIf (r.suiteOwnerActorId = r.platformOnCallActorId) "unknown_review_request"
    "escalation_recipients" "recipients_not_distinct"
  requireUtc "unknown_review_request" "requested_at" r.requestedAt
  requireUtc "unknown_review_request" "review_start_deadline" r.reviewStartDeadline
  let deadline ← instantAfter r.requestedAt reviewStartSla
  invalidIf (r.reviewStartDeadline ≠ deadline) "unknown_review_request" "review_start_deadline"
    "not_exact_24h"

structure UnknownReviewRequest extends UnknownReviewRequest.Fields where
  accepted : toFields.postInit = .ok ()
  deriving DecidableEq

namespace UnknownReviewRequest

def new : Fields → Result UnknownReviewRequest := construct Fields.postInit mk

def canonicalPayload (r : UnknownReviewRequest) : Json :=
  .dict [("run_id", .str r.runId), ("attempt_id", .str r.attemptId),
    ("observation_digest", .str r.observationDigest.value),
    ("triggering_actor_id", .str r.triggeringActorId),
    ("suite_owner_actor_id", .str r.suiteOwnerActorId),
    ("platform_on_call_actor_id", .str r.platformOnCallActorId),
    ("requested_at", .str r.requestedAt.isoformat),
    ("review_start_deadline", .str r.reviewStartDeadline.isoformat)]

def digest (r : UnknownReviewRequest) : Result Digest :=
  canonicalDigest "qep.unknown-review-request.v1" r.canonicalPayload

end UnknownReviewRequest

structure UnknownReviewNotification.Fields where
  kind : UnknownReviewNotificationKind
  recipientActorId : Str
  requestDigest : Digest
  occurredAt : Datetime
  deriving DecidableEq

def UnknownReviewNotification.Fields.postInit (n : UnknownReviewNotification.Fields) :
    Result Unit := do
  requireNonemptyString "unknown_review_notification" "recipient_actor_id" n.recipientActorId
  requireUtc "unknown_review_notification" "occurred_at" n.occurredAt

structure UnknownReviewNotification extends UnknownReviewNotification.Fields where
  accepted : toFields.postInit = .ok ()
  deriving DecidableEq

def UnknownReviewNotification.new :
    UnknownReviewNotification.Fields → Result UnknownReviewNotification :=
  construct UnknownReviewNotification.Fields.postInit UnknownReviewNotification.mk

structure UnknownReviewAuditFact.Fields where
  kind : UnknownReviewAuditKind
  requestDigest : Digest
  occurredAt : Datetime
  deriving DecidableEq

def UnknownReviewAuditFact.Fields.postInit (a : UnknownReviewAuditFact.Fields) : Result Unit :=
  requireUtc "unknown_review_audit_fact" "occurred_at" a.occurredAt

structure UnknownReviewAuditFact extends UnknownReviewAuditFact.Fields where
  accepted : toFields.postInit = .ok ()
  deriving DecidableEq

def UnknownReviewAuditFact.new : UnknownReviewAuditFact.Fields → Result UnknownReviewAuditFact :=
  construct UnknownReviewAuditFact.Fields.postInit UnknownReviewAuditFact.mk

def validateReviewerStart (request : UnknownReviewRequest) (reviewer : Option UnknownReviewActor)
    (startedAt : Option Datetime) (evaluatedAt : Datetime) : Result Unit :=
  match reviewer with
  | none => invalidIf startedAt.isSome "unknown_review_evaluation" "review_started_at"
      "forbidden_without_reviewer"
  | some actor => do
    invalidIf (actor.role ≠ .reviewer) "unknown_review_evaluation" "reviewer" "invalid_reviewer"
    let started ← need startedAt (.domainValidation "unknown_review_evaluation"
      "review_started_at" "required_with_reviewer")
    requireUtc "unknown_review_evaluation" "review_started_at" started
    invalidIf (started < request.requestedAt) "unknown_review_evaluation" "review_started_at"
      "before_request"
    invalidIf (evaluatedAt < started) "unknown_review_evaluation" "review_started_at"
      "after_evaluation"

structure UnknownReviewEvaluation.Fields where
  request : UnknownReviewRequest
  status : UnknownReviewStatus
  reviewer : Option UnknownReviewActor
  notifications : List UnknownReviewNotification
  auditFacts : List UnknownReviewAuditFact
  evaluatedAt : Datetime
  reviewStartedAt : Option Datetime
  deriving DecidableEq

def UnknownReviewEvaluation.Fields.requireStatusMatrix (e : UnknownReviewEvaluation.Fields) :
    Result Unit :=
  match e.status with
  | .pending =>
    invalidIf (e.reviewer.isSome ∨ e.notifications ≠ [] ∨ e.auditFacts ≠ [])
      "unknown_review_evaluation" "status" "invalid_pending_matrix"
  | .started => do
    invalidIf (e.reviewer.isNone ∨ e.notifications ≠ [] ∨ e.auditFacts ≠ [])
      "unknown_review_evaluation" "status" "invalid_started_matrix"
    let started ← need e.reviewStartedAt (.crash .typeError)
    invalidIf (e.request.reviewStartDeadline < started) "unknown_review_evaluation" "status"
      "invalid_started_matrix"
  | .slaBreached => do
    invalidIf (e.notifications.map (·.kind) ≠ [.suiteOwner, .platformOnCall] ∨
        e.notifications.map (·.recipientActorId) ≠
          [e.request.suiteOwnerActorId, e.request.platformOnCallActorId] ∨
        e.auditFacts.map (·.kind) ≠ [.security, .operations])
      "unknown_review_evaluation" "status" "invalid_breached_matrix"
    let digest ← e.request.digest
    invalidIf ((∃ n ∈ e.notifications, n.requestDigest ≠ digest) ∨
        (∃ a ∈ e.auditFacts, a.requestDigest ≠ digest) ∨
        (∃ n ∈ e.notifications, n.occurredAt ≠ e.evaluatedAt) ∨
        (∃ a ∈ e.auditFacts, a.occurredAt ≠ e.evaluatedAt) ∨
        ∃ started ∈ e.reviewStartedAt, started ≤ e.request.reviewStartDeadline)
      "unknown_review_evaluation" "status" "invalid_breached_matrix"

def UnknownReviewEvaluation.Fields.postInit (e : UnknownReviewEvaluation.Fields) :
    Result Unit := do
  requireUtc "unknown_review_evaluation" "evaluated_at" e.evaluatedAt
  validateReviewerStart e.request e.reviewer e.reviewStartedAt e.evaluatedAt
  whenSome e.reviewer fun actor =>
    invalidIf (actor.actorId = e.request.triggeringActorId ∨
        actor.actorId = e.request.suiteOwnerActorId)
      "unknown_review_evaluation" "reviewer" "not_independent"
  e.requireStatusMatrix

structure UnknownReviewEvaluation extends UnknownReviewEvaluation.Fields where
  accepted : toFields.postInit = .ok ()
  deriving DecidableEq

def UnknownReviewEvaluation.new :
    UnknownReviewEvaluation.Fields → Result UnknownReviewEvaluation :=
  construct UnknownReviewEvaluation.Fields.postInit UnknownReviewEvaluation.mk

def requireActor (field : String) (actor : UnknownReviewActor) (role : UnknownReviewRole) :
    Result Unit :=
  invalidIf (actor.role ≠ role) "unknown_review_evaluation" field "role_mismatch"

/-- Both recipients of an escalation. -/
def escalationNotifications (suiteOwner platformOnCall : UnknownReviewActor) (digest : Digest)
    (evaluatedAt : Datetime) : Result (List UnknownReviewNotification) :=
  collect [(UnknownReviewNotificationKind.suiteOwner, suiteOwner),
    (.platformOnCall, platformOnCall)] fun recipient =>
    UnknownReviewNotification.new ⟨recipient.1, recipient.2.actorId, digest, evaluatedAt⟩

def escalationAudits (digest : Digest) (evaluatedAt : Datetime) :
    Result (List UnknownReviewAuditFact) :=
  collect [UnknownReviewAuditKind.security, .operations] fun kind =>
    UnknownReviewAuditFact.new ⟨kind, digest, evaluatedAt⟩

/-- The deadline is missed by the start, or by the evaluation while there is no start. -/
def startBreached (deadline : Datetime) (reviewStartedAt : Option Datetime)
    (evaluatedAt : Datetime) : Prop :=
  match reviewStartedAt with
  | some started => deadline < started
  | none => deadline < evaluatedAt

instance (deadline : Datetime) (reviewStartedAt : Option Datetime) (evaluatedAt : Datetime) :
    Decidable (startBreached deadline reviewStartedAt evaluatedAt) :=
  match reviewStartedAt with
  | some started => inferInstanceAs (Decidable (deadline < started))
  | none => inferInstanceAs (Decidable (deadline < evaluatedAt))

/-- The arguments of `evaluateUnknownReview`. -/
structure UnknownReviewInput where
  runId : Str
  attemptId : Str
  observation : UnknownObservation
  triggeringActorId : Str
  suiteOwner : UnknownReviewActor
  platformOnCall : UnknownReviewActor
  assignedReviewer : Option UnknownReviewActor
  reviewStartedAt : Option Datetime
  evaluatedAt : Datetime

/-- The checks on the arguments themselves. -/
def UnknownReviewInput.validate (i : UnknownReviewInput) : Result Unit := do
  requireNonemptyString "unknown_review_evaluation" "run_id" i.runId
  requireNonemptyString "unknown_review_evaluation" "attempt_id" i.attemptId
  requireNonemptyString "unknown_review_evaluation" "triggering_actor_id" i.triggeringActorId
  requireActor "suite_owner" i.suiteOwner .suiteOwner
  requireActor "platform_on_call" i.platformOnCall .platformOnCall
  invalidIf (i.suiteOwner.actorId = i.platformOnCall.actorId) "unknown_review_evaluation"
    "escalation_recipients" "recipients_not_distinct"
  requireUtc "unknown_review_evaluation" "evaluated_at" i.evaluatedAt
  invalidIf (i.evaluatedAt < i.observation.recordedAt) "unknown_review_evaluation" "evaluated_at"
    "before_request"
  whenSome i.assignedReviewer fun reviewer => do
    requireActor "assigned_reviewer" reviewer .reviewer
    invalidIf (reviewer.actorId = i.triggeringActorId ∨ reviewer.actorId = i.suiteOwner.actorId)
      "unknown_review_evaluation" "assigned_reviewer" "not_independent"

/-- The request an observation gives rise to. -/
def UnknownReviewInput.request (i : UnknownReviewInput) : Result UnknownReviewRequest := do
  let observationDigest ← i.observation.digest
  let deadline ← instantAfter i.observation.recordedAt reviewStartSla
  UnknownReviewRequest.new
    { runId := i.runId
      attemptId := i.attemptId
      observationDigest := observationDigest
      triggeringActorId := i.triggeringActorId
      suiteOwnerActorId := i.suiteOwner.actorId
      platformOnCallActorId := i.platformOnCall.actorId
      requestedAt := i.observation.recordedAt
      reviewStartDeadline := deadline }

/-- Derive request, start and escalation facts without changing unknown handling. -/
def evaluateUnknownReview (i : UnknownReviewInput) : Result UnknownReviewEvaluation := do
  i.validate
  let request ← i.request
  validateReviewerStart request i.assignedReviewer i.reviewStartedAt i.evaluatedAt
  if startBreached request.reviewStartDeadline i.reviewStartedAt i.evaluatedAt then
    let digest ← request.digest
    let notifications ←
      escalationNotifications i.suiteOwner i.platformOnCall digest i.evaluatedAt
    let audits ← escalationAudits digest i.evaluatedAt
    UnknownReviewEvaluation.new
      { request := request
        status := .slaBreached
        reviewer := i.assignedReviewer
        notifications := notifications
        auditFacts := audits
        evaluatedAt := i.evaluatedAt
        reviewStartedAt := i.reviewStartedAt }
  else
    UnknownReviewEvaluation.new
      { request := request
        status := if i.assignedReviewer.isSome then .started else .pending
        reviewer := i.assignedReviewer
        notifications := []
        auditFacts := []
        evaluatedAt := i.evaluatedAt
        reviewStartedAt := i.reviewStartedAt }

theorem UnknownReviewRequest.new_eq_ok {f : Fields} {r : UnknownReviewRequest} :
    new f = .ok r ↔ r.toFields = f := by
  simp only [new, construct_eq_ok]
  constructor
  · rintro ⟨_, rfl⟩
    rfl
  · rintro rfl
    exact ⟨r.accepted, rfl⟩

theorem UnknownReviewNotification.new_eq_ok {f : Fields} {n : UnknownReviewNotification} :
    new f = .ok n ↔ n.toFields = f := by
  simp only [new, construct_eq_ok]
  constructor
  · rintro ⟨_, rfl⟩
    rfl
  · rintro rfl
    exact ⟨n.accepted, rfl⟩

theorem UnknownReviewAuditFact.new_eq_ok {f : Fields} {a : UnknownReviewAuditFact} :
    new f = .ok a ↔ a.toFields = f := by
  simp only [new, construct_eq_ok]
  constructor
  · rintro ⟨_, rfl⟩
    rfl
  · rintro rfl
    exact ⟨a.accepted, rfl⟩

theorem UnknownReviewEvaluation.new_eq_ok {f : Fields} {e : UnknownReviewEvaluation} :
    new f = .ok e ↔ e.toFields = f := by
  simp only [new, construct_eq_ok]
  constructor
  · rintro ⟨_, rfl⟩
    rfl
  · rintro rfl
    exact ⟨e.accepted, rfl⟩

/-- The strings of the request fit into its digest. -/
structure UnknownReviewRequest.Digestible (r : UnknownReviewRequest.Fields) : Prop where
  run_id : r.runId.isUnicode = true
  attempt_id : r.attemptId.isUnicode = true
  triggering_actor_id : r.triggeringActorId.isUnicode = true
  suite_owner_actor_id : r.suiteOwnerActorId.isUnicode = true
  platform_on_call_actor_id : r.platformOnCallActorId.isUnicode = true

theorem UnknownReviewRequest.digest_iff {r : UnknownReviewRequest} :
    (∃ digest, r.digest = .ok digest) ↔ Digestible r.toFields := by
  simp only [digest, canonicalPayload, canonicalDigest_eq_ok, exists_and_left, exists_eq',
    and_true, validateJsonValue_dict, validateJsonFields_cons, validateJsonFields_nil,
    validateJsonValue_str, Str.isUnicode_text, true_and]
  constructor
  · rintro ⟨hrun, hattempt, htrigger, howner, honCall⟩
    exact ⟨hrun, hattempt, htrigger, howner, honCall⟩
  · rintro ⟨hrun, hattempt, htrigger, howner, honCall⟩
    exact ⟨hrun, hattempt, htrigger, howner, honCall⟩

theorem UnknownObservation.digest_iff {o : UnknownObservation} :
    (∃ digest, o.digest = .ok digest) ↔ o.id.isUnicode = true := by
  simp only [digest, canonicalDigest_eq_ok, exists_and_left, exists_eq', and_true,
    validateJsonValue_dict, validateJsonFields_cons, validateJsonFields_nil,
    validateJsonValue_str, Str.isUnicode_text]

theorem UnknownReviewRequest.deadline_eq (r : UnknownReviewRequest) :
    (r.reviewStartDeadline.micros : ℤ) = r.requestedAt.micros + reviewStartSla := by
  have haccepted := r.accepted
  simp only [Fields.postInit, bind_eq_ok, exists_unit, invalidIf_eq_ok, ne_eq, not_not] at haccepted
  obtain ⟨-, -, -, -, -, -, deadline, hdeadline, hexact⟩ := haccepted
  rw [hexact]
  exact (instantAfter_eq_ok.mp hdeadline).1

section
variable {i : UnknownReviewInput} {request : UnknownReviewRequest} {e : UnknownReviewEvaluation}
  {digest : Digest} {t : Datetime}

theorem escalationNotifications_eq_ok {owner onCall : UnknownReviewActor}
    {ns : List UnknownReviewNotification} :
    escalationNotifications owner onCall digest t = .ok ns ↔
      ns.map (·.toFields) = [⟨.suiteOwner, owner.actorId, digest, t⟩,
        ⟨.platformOnCall, onCall.actorId, digest, t⟩] := by
  simp only [escalationNotifications, collect_eq_ok, List.forall₂_cons_left_iff,
    List.forall₂_nil_left_iff, UnknownReviewNotification.new_eq_ok, List.map_eq_cons_iff,
    List.map_eq_nil_iff]
  constructor
  · rintro ⟨n, _, hn, ⟨m, _, hm, rfl, rfl⟩, rfl⟩
    exact ⟨n, [m], rfl, hn, m, [], rfl, hm, rfl⟩
  · rintro ⟨n, _, rfl, hn, m, _, rfl, hm, rfl⟩
    exact ⟨n, [m], hn, ⟨m, [], hm, rfl, rfl⟩, rfl⟩

theorem escalationAudits_eq_ok {audits : List UnknownReviewAuditFact} :
    escalationAudits digest t = .ok audits ↔
      audits.map (·.toFields) = [⟨.security, digest, t⟩, ⟨.operations, digest, t⟩] := by
  simp only [escalationAudits, collect_eq_ok, List.forall₂_cons_left_iff,
    List.forall₂_nil_left_iff, UnknownReviewAuditFact.new_eq_ok, List.map_eq_cons_iff,
    List.map_eq_nil_iff]
  constructor
  · rintro ⟨a, _, ha, ⟨b, _, hb, rfl, rfl⟩, rfl⟩
    exact ⟨a, [b], rfl, ha, b, [], rfl, hb, rfl⟩
  · rintro ⟨a, _, rfl, ha, b, _, rfl, hb, rfl⟩
    exact ⟨a, [b], ha, ⟨b, [], hb, rfl, rfl⟩, rfl⟩

/-- The facts of an escalation, under the digest of the request. -/
def Escalates (request : UnknownReviewRequest) (owner onCall : Str) (t : Datetime)
    (e : UnknownReviewEvaluation.Fields) : Prop :=
  ∃ digest, request.digest = .ok digest ∧
    e.notifications.map (·.toFields) =
      [⟨.suiteOwner, owner, digest, t⟩, ⟨.platformOnCall, onCall, digest, t⟩] ∧
    e.auditFacts.map (·.toFields) = [⟨.security, digest, t⟩, ⟨.operations, digest, t⟩]

/-- What an evaluation says, given what it was asked and the request it concerns. -/
structure Verdict (i : UnknownReviewInput) (request : UnknownReviewRequest)
    (e : UnknownReviewEvaluation.Fields) : Prop where
  request_eq : e.request = request
  reviewer_eq : e.reviewer = i.assignedReviewer
  evaluated_eq : e.evaluatedAt = i.evaluatedAt
  started_eq : e.reviewStartedAt = i.reviewStartedAt
  status_eq : e.status =
    if startBreached request.reviewStartDeadline i.reviewStartedAt i.evaluatedAt then .slaBreached
    else if i.assignedReviewer.isSome then .started else .pending
  facts_eq : if startBreached request.reviewStartDeadline i.reviewStartedAt i.evaluatedAt then
      Escalates request i.suiteOwner.actorId i.platformOnCall.actorId i.evaluatedAt e
    else e.notifications = [] ∧ e.auditFacts = []

theorem evaluateUnknownReview_eq_ok : evaluateUnknownReview i = .ok e ↔
    i.validate = .ok () ∧ ∃ request, i.request = .ok request ∧
      validateReviewerStart request i.assignedReviewer i.reviewStartedAt i.evaluatedAt = .ok () ∧
      Verdict i request e.toFields := by
  simp only [evaluateUnknownReview, bind_eq_ok, exists_unit]
  refine and_congr_right fun _ => exists_congr fun request => and_congr_right fun _ =>
    and_congr_right fun _ => ?_
  by_cases hbreached : startBreached request.reviewStartDeadline i.reviewStartedAt i.evaluatedAt
  · rw [if_pos hbreached]
    simp only [bind_eq_ok, escalationNotifications_eq_ok, escalationAudits_eq_ok,
      UnknownReviewEvaluation.new_eq_ok]
    constructor
    · rintro ⟨digest, hdigest, ns, hns, audits, haudits, hfields⟩
      refine ⟨by rw [hfields], by rw [hfields], by rw [hfields], by rw [hfields], ?_, ?_⟩
      · rw [hfields, if_pos hbreached]
      · rw [if_pos hbreached, hfields]
        exact ⟨digest, hdigest, hns, haudits⟩
    · rintro ⟨hrequest, hreviewer, hevaluated, hstarted, hstatus, hfacts⟩
      rw [if_pos hbreached] at hstatus hfacts
      obtain ⟨digest, hdigest, hns, haudits⟩ := hfacts
      refine ⟨digest, hdigest, e.notifications, hns, e.auditFacts, haudits, ?_⟩
      rw [← hrequest, ← hreviewer, ← hevaluated, ← hstarted, ← hstatus]
  · rw [if_neg hbreached, UnknownReviewEvaluation.new_eq_ok]
    constructor
    · intro hfields
      refine ⟨by rw [hfields], by rw [hfields], by rw [hfields], by rw [hfields], ?_, ?_⟩
      · rw [hfields, if_neg hbreached]
      · rw [if_neg hbreached, hfields]
        exact ⟨rfl, rfl⟩
    · rintro ⟨hrequest, hreviewer, hevaluated, hstarted, hstatus, hfacts⟩
      rw [if_neg hbreached] at hstatus hfacts
      obtain ⟨hnone, hquiet⟩ := hfacts
      rw [← hstatus, ← hrequest, ← hreviewer, ← hevaluated, ← hstarted, ← hnone, ← hquiet]

theorem validateReviewerStart_eq_ok {reviewer : Option UnknownReviewActor}
    {started : Option Datetime} {u : Unit} :
    validateReviewerStart request reviewer started t = .ok u ↔
      (reviewer = none → started = none) ∧ ∀ actor, reviewer = some actor →
        actor.role = .reviewer ∧ ∃ s, started = some s ∧ s.IsUtc ∧
          request.requestedAt.micros ≤ s.micros ∧ s.micros ≤ t.micros := by
  unfold validateReviewerStart
  cases reviewer with
  | none => cases started <;> simp [invalidIf_eq_ok]
  | some actor =>
    simp [bind_eq_ok, invalidIf_eq_ok, need_eq_ok, requireUtc_eq_ok, Datetime.lt_def]

/-- The review starts, or is still missing, more than twenty-four hours after the observation. -/
def UnknownReviewInput.Late (i : UnknownReviewInput) : Prop :=
  (i.observation.recordedAt.micros : ℤ) + reviewStartSla <
    (i.reviewStartedAt.getD i.evaluatedAt).micros

instance : DecidablePred UnknownReviewInput.Late := fun _ => Int.decLt _ _

/-- The arguments an evaluation accepts. The digest of the observation is in every request, the one
of the request in the facts of an escalation. -/
structure UnknownReviewInput.Admissible (i : UnknownReviewInput) : Prop where
  run_named : isBlank i.runId = false
  attempt_named : isBlank i.attemptId = false
  trigger_named : isBlank i.triggeringActorId = false
  owner_role : i.suiteOwner.role = .suiteOwner
  on_call_role : i.platformOnCall.role = .platformOnCall
  distinct : i.suiteOwner.actorId ≠ i.platformOnCall.actorId
  evaluated_utc : i.evaluatedAt.IsUtc
  in_order : i.observation.recordedAt.micros ≤ i.evaluatedAt.micros
  unreviewed : i.assignedReviewer = none → i.reviewStartedAt = none
  reviewed : ∀ actor, i.assignedReviewer = some actor → actor.role = .reviewer ∧
    actor.actorId ≠ i.triggeringActorId ∧ actor.actorId ≠ i.suiteOwner.actorId ∧
    ∃ s, i.reviewStartedAt = some s ∧ s.IsUtc ∧
      i.observation.recordedAt.micros ≤ s.micros ∧ s.micros ≤ i.evaluatedAt.micros
  deadline_exists : (i.observation.recordedAt.micros : ℤ) + reviewStartSla ≤ Datetime.lastMicros
  observation_id : i.observation.id.isUnicode = true
  escalated : i.Late → i.runId.isUnicode = true ∧ i.attemptId.isUnicode = true ∧
    i.triggeringActorId.isUnicode = true ∧ i.suiteOwner.actorId.isUnicode = true ∧
    i.platformOnCall.actorId.isUnicode = true

theorem UnknownReviewInput.validate_eq_ok {u : Unit} : i.validate = .ok u ↔
    isBlank i.runId = false ∧ isBlank i.attemptId = false ∧ isBlank i.triggeringActorId = false ∧
      i.suiteOwner.role = .suiteOwner ∧ i.platformOnCall.role = .platformOnCall ∧
      i.suiteOwner.actorId ≠ i.platformOnCall.actorId ∧ i.evaluatedAt.IsUtc ∧
      i.observation.recordedAt.micros ≤ i.evaluatedAt.micros ∧
      ∀ actor, i.assignedReviewer = some actor → actor.role = .reviewer ∧
        actor.actorId ≠ i.triggeringActorId ∧ actor.actorId ≠ i.suiteOwner.actorId := by
  simp [validate, then_eq_ok, requireNonemptyString_eq_ok, requireActor, invalidIf_eq_ok,
    requireUtc_eq_ok, whenSome_eq_ok, Datetime.lt_def]

/-- The request of an input copies its actors and starts the clock at the observation. -/
theorem UnknownReviewInput.request_eq_ok : i.request = .ok request ↔
    ∃ digest deadline, i.observation.digest = .ok digest ∧
      instantAfter i.observation.recordedAt reviewStartSla = .ok deadline ∧
      request.toFields =
        { runId := i.runId
          attemptId := i.attemptId
          observationDigest := digest
          triggeringActorId := i.triggeringActorId
          suiteOwnerActorId := i.suiteOwner.actorId
          platformOnCallActorId := i.platformOnCall.actorId
          requestedAt := i.observation.recordedAt
          reviewStartDeadline := deadline } := by
  simp only [UnknownReviewInput.request, bind_eq_ok, UnknownReviewRequest.new_eq_ok]
  constructor
  · rintro ⟨digest, hdigest, deadline, hdeadline, hfields⟩
    exact ⟨digest, deadline, hdigest, hdeadline, hfields⟩
  · rintro ⟨digest, deadline, hdigest, hdeadline, hfields⟩
    exact ⟨digest, hdigest, deadline, hdeadline, hfields⟩

theorem UnknownObservation.recorded_utc (o : UnknownObservation) : o.recordedAt.IsUtc := by
  have haccepted := o.accepted
  simp only [Fields.postInit, then_eq_ok, requireUtc_eq_ok] at haccepted
  exact haccepted.2

theorem UnknownReviewActor.named (a : UnknownReviewActor) : isBlank a.actorId = false := by
  have haccepted := a.accepted
  simpa [Fields.postInit, requireNonemptyString_eq_ok] using haccepted

/-- An admissible input has a request. -/
theorem UnknownReviewInput.Admissible.exists_request (h : i.Admissible) :
    ∃ request, i.request = .ok request := by
  obtain ⟨digest, hdigest⟩ := UnknownObservation.digest_iff.mpr h.observation_id
  have hlast := h.deadline_exists
  have hsla : reviewStartSla = 86400000000 := rfl
  obtain ⟨deadline, hdeadline⟩ :
      ∃ deadline, instantAfter i.observation.recordedAt reviewStartSla = .ok deadline := by
    refine ⟨⟨i.observation.recordedAt.micros + 86400000000, i.observation.recordedAt.utcoffset⟩,
      instantAfter_eq_ok.mpr ⟨?_, ?_, rfl⟩⟩
    · show ((i.observation.recordedAt.micros + 86400000000 : ℕ) : ℤ) = _
      omega
    · show i.observation.recordedAt.micros + 86400000000 ≤ Datetime.lastMicros
      omega
  have hutc := i.observation.recorded_utc
  have haccepted : UnknownReviewRequest.Fields.postInit
      { runId := i.runId
        attemptId := i.attemptId
        observationDigest := digest
        triggeringActorId := i.triggeringActorId
        suiteOwnerActorId := i.suiteOwner.actorId
        platformOnCallActorId := i.platformOnCall.actorId
        requestedAt := i.observation.recordedAt
        reviewStartDeadline := deadline } = .ok () := by
    simp only [UnknownReviewRequest.Fields.postInit, bind_eq_ok, exists_unit,
      requireNonemptyString_eq_ok, each_eq_ok, invalidIf_eq_ok, requireUtc_eq_ok]
    refine ⟨h.run_named, h.attempt_named, ?_, h.distinct, hutc, ?_, deadline, hdeadline, ?_⟩
    · simp [h.trigger_named, UnknownReviewActor.named]
    · exact (instantAfter_eq_ok.mp hdeadline).2.2.trans hutc
    · exact not_not.mpr rfl
  exact ⟨⟨_, haccepted⟩, UnknownReviewInput.request_eq_ok.mpr
    ⟨digest, deadline, hdigest, hdeadline, rfl⟩⟩

/-- The facts of an escalation at a UTC instant can all be built. -/
theorem exists_escalation (owner onCall : UnknownReviewActor) (digest : Digest) (ht : t.IsUtc) :
    ∃ ns audits, escalationNotifications owner onCall digest t = .ok ns ∧
      escalationAudits digest t = .ok audits := by
  have hnotify : ∀ kind (a : UnknownReviewActor),
      UnknownReviewNotification.Fields.postInit ⟨kind, a.actorId, digest, t⟩ = .ok () := by
    intro kind a
    simp [UnknownReviewNotification.Fields.postInit, then_eq_ok, requireNonemptyString_eq_ok,
      requireUtc_eq_ok, a.named, ht]
  have haudit : ∀ kind, UnknownReviewAuditFact.Fields.postInit ⟨kind, digest, t⟩ = .ok () := by
    intro kind
    simp [UnknownReviewAuditFact.Fields.postInit, requireUtc_eq_ok, ht]
  exact ⟨[⟨_, hnotify .suiteOwner owner⟩, ⟨_, hnotify .platformOnCall onCall⟩],
    [⟨_, haudit .security⟩, ⟨_, haudit .operations⟩],
    escalationNotifications_eq_ok.mpr rfl, escalationAudits_eq_ok.mpr rfl⟩

/-- What an evaluation checks beside the matrix of its status. -/
theorem UnknownReviewEvaluation.postInit_eq_ok {f : Fields} {u : Unit} : f.postInit = .ok u ↔
    f.evaluatedAt.IsUtc ∧
      validateReviewerStart f.request f.reviewer f.reviewStartedAt f.evaluatedAt = .ok () ∧
      (∀ actor, f.reviewer = some actor → actor.actorId ≠ f.request.triggeringActorId ∧
        actor.actorId ≠ f.request.suiteOwnerActorId) ∧ f.requireStatusMatrix = .ok () := by
  simp [Fields.postInit, then_eq_ok, requireUtc_eq_ok, whenSome_eq_ok, invalidIf_eq_ok]

/-- The matrices, with the facts of an escalation read as the lists they are. -/
theorem UnknownReviewEvaluation.requireStatusMatrix_eq_ok {f : Fields} {u : Unit} :
    f.requireStatusMatrix = .ok u ↔
      match f.status with
      | .pending => f.reviewer = none ∧ f.notifications = [] ∧ f.auditFacts = []
      | .started => (f.reviewer ≠ none ∧ f.notifications = [] ∧ f.auditFacts = []) ∧
        ∃ s, f.reviewStartedAt = some s ∧ s.micros ≤ f.request.reviewStartDeadline.micros
      | .slaBreached => Escalates f.request f.request.suiteOwnerActorId
          f.request.platformOnCallActorId f.evaluatedAt f ∧
        ∀ s, f.reviewStartedAt = some s → f.request.reviewStartDeadline.micros < s.micros := by
  unfold Fields.requireStatusMatrix
  cases f.status with
  | pending => simp [invalidIf_eq_ok]
  | started =>
    simp [bind_eq_ok, invalidIf_eq_ok, need_eq_ok, Datetime.lt_def, Option.isNone_iff_eq_none]
  | slaBreached =>
    simp only [bind_eq_ok, exists_unit, invalidIf_eq_ok, not_or, ne_eq, not_not, not_exists,
      not_and, Escalates]
    simp only [List.map_eq_cons_iff, List.map_eq_nil_iff]
    constructor
    · rintro ⟨⟨⟨n, _, hns, hkind, n', _, rfl, hkind', rfl⟩,
        ⟨m, _, hms, hto, m', _, rfl, hto', rfl⟩,
        ⟨a, _, has, haudit, a', _, rfl, haudit', rfl⟩⟩, digest, hdigest, hnd, had, hnt, hat,
        hstart⟩
      obtain ⟨rfl, rfl⟩ : n = m ∧ n' = m' := by
        rw [hns] at hms
        simpa using hms
      have hn : n ∈ f.notifications ∧ n' ∈ f.notifications := by simp [hns]
      have ha : a ∈ f.auditFacts ∧ a' ∈ f.auditFacts := by simp [has]
      refine ⟨⟨digest, hdigest, ⟨n, [n'], hns, ?_, n', [], rfl, ?_, rfl⟩,
        a, [a'], has, ?_, a', [], rfl, ?_, rfl⟩, ?_⟩
      · rw [← hkind, ← hto, ← hnd n hn.1, ← hnt n hn.1]
      · rw [← hkind', ← hto', ← hnd n' hn.2, ← hnt n' hn.2]
      · rw [← haudit, ← had a ha.1, ← hat a ha.1]
      · rw [← haudit', ← had a' ha.2, ← hat a' ha.2]
      · intro s hs
        exact Nat.lt_of_not_le (hstart s hs)
    · rintro ⟨⟨digest, hdigest, ⟨n, _, hns, hn, n', _, rfl, hn', rfl⟩, a, _, has, ha, a', _, rfl,
        ha', rfl⟩, hstart⟩
      refine ⟨⟨⟨n, [n'], hns, by rw [hn], n', [], rfl, by rw [hn'], rfl⟩, ?_,
        ⟨a, [a'], has, by rw [ha], a', [], rfl, by rw [ha'], rfl⟩⟩, digest, hdigest, ?_, ?_, ?_, ?_,
        ?_⟩
      · simp [hns, hn, hn']
      · simp [hns, hn, hn']
      · simp [has, ha, ha']
      · simp [hns, hn, hn']
      · simp [has, ha, ha']
      · intro s hs
        exact Nat.not_le_of_lt (hstart s hs)

/-- The request copies the instant the observation was recorded at. -/
theorem UnknownReviewInput.requested_at (h : i.request = .ok request) :
    request.requestedAt = i.observation.recordedAt := by
  obtain ⟨_, _, -, -, hfields⟩ := UnknownReviewInput.request_eq_ok.mp h
  rw [hfields]

theorem UnknownReviewInput.late_iff (h : i.request = .ok request) :
    startBreached request.reviewStartDeadline i.reviewStartedAt i.evaluatedAt ↔ i.Late := by
  have hdeadline := request.deadline_eq
  rw [UnknownReviewInput.requested_at h] at hdeadline
  have hlate : startBreached request.reviewStartDeadline i.reviewStartedAt i.evaluatedAt ↔
      request.reviewStartDeadline.micros < (i.reviewStartedAt.getD i.evaluatedAt).micros := by
    cases i.reviewStartedAt <;> exact Iff.rfl
  rw [UnknownReviewInput.Late, ← hdeadline, Int.ofNat_lt, hlate]

/-- The request has a digest when the strings of the input have. -/
theorem UnknownReviewInput.request_digest (h : i.request = .ok request) :
    (∃ digest, request.digest = .ok digest) ↔
      i.runId.isUnicode = true ∧ i.attemptId.isUnicode = true ∧
        i.triggeringActorId.isUnicode = true ∧ i.suiteOwner.actorId.isUnicode = true ∧
        i.platformOnCall.actorId.isUnicode = true := by
  obtain ⟨_, _, -, -, hfields⟩ := UnknownReviewInput.request_eq_ok.mp h
  rw [UnknownReviewRequest.digest_iff, hfields]
  constructor
  · rintro ⟨hrun, hattempt, htrigger, howner, honCall⟩
    exact ⟨hrun, hattempt, htrigger, howner, honCall⟩
  · rintro ⟨hrun, hattempt, htrigger, howner, honCall⟩
    exact ⟨hrun, hattempt, htrigger, howner, honCall⟩

theorem admissible_of_evaluate (h : evaluateUnknownReview i = .ok e) : i.Admissible := by
  obtain ⟨hvalid, request, hrequest, hstart, hverdict⟩ := evaluateUnknownReview_eq_ok.mp h
  obtain ⟨hrun, hattempt, htrigger, howner, honCall, hdistinct, hutc, horder, hreviewer⟩ :=
    UnknownReviewInput.validate_eq_ok.mp hvalid
  obtain ⟨hunreviewed, hreviewed⟩ := validateReviewerStart_eq_ok.mp hstart
  obtain ⟨_, deadline, hobserved, hdeadline, -⟩ := UnknownReviewInput.request_eq_ok.mp hrequest
  refine ⟨hrun, hattempt, htrigger, howner, honCall, hdistinct, hutc, horder, hunreviewed, ?_, ?_,
    UnknownObservation.digest_iff.mp ⟨_, hobserved⟩, ?_⟩
  · intro actor hactor
    obtain ⟨-, hforeign, hother⟩ := hreviewer actor hactor
    obtain ⟨hrole, s, hs, hsutc, hafter, hbefore⟩ := hreviewed actor hactor
    rw [UnknownReviewInput.requested_at hrequest] at hafter
    exact ⟨hrole, hforeign, hother, s, hs, hsutc, hafter, hbefore⟩
  · obtain ⟨hmicros, hlast, -⟩ := instantAfter_eq_ok.mp hdeadline
    omega
  · intro hlate
    have hfacts := hverdict.facts_eq
    rw [if_pos ((UnknownReviewInput.late_iff hrequest).mpr hlate)] at hfacts
    obtain ⟨digest, hdigest, -⟩ := hfacts
    exact (UnknownReviewInput.request_digest hrequest).mp ⟨digest, hdigest⟩

/-- The start of a reviewer that an admissible input names. -/
theorem UnknownReviewInput.Admissible.start_ok (h : i.Admissible)
    (hrequest : i.request = .ok request) :
    validateReviewerStart request i.assignedReviewer i.reviewStartedAt i.evaluatedAt = .ok () := by
  refine validateReviewerStart_eq_ok.mpr ⟨h.unreviewed, fun actor hactor => ?_⟩
  obtain ⟨hrole, -, -, hs⟩ := h.reviewed actor hactor
  rw [UnknownReviewInput.requested_at hrequest]
  exact ⟨hrole, hs⟩

/-- A verdict on an admissible input passes the checks of a stored evaluation. -/
theorem accepted_of_verdict {f : UnknownReviewEvaluation.Fields} (h : i.Admissible)
    (hrequest : i.request = .ok request) (hf : Verdict i request f) : f.postInit = .ok () := by
  obtain ⟨_, _, -, -, hfields⟩ := UnknownReviewInput.request_eq_ok.mp hrequest
  have hfacts := hf.facts_eq
  refine UnknownReviewEvaluation.postInit_eq_ok.mpr
    ⟨?_, ?_, ?_, UnknownReviewEvaluation.requireStatusMatrix_eq_ok.mpr ?_⟩
  · rw [hf.evaluated_eq]
    exact h.evaluated_utc
  · rw [hf.request_eq, hf.reviewer_eq, hf.started_eq, hf.evaluated_eq]
    exact h.start_ok hrequest
  · rw [hf.reviewer_eq, hf.request_eq, hfields]
    intro actor hactor
    obtain ⟨-, hforeign, hother, -⟩ := h.reviewed actor hactor
    exact ⟨hforeign, hother⟩
  · rw [hf.status_eq, hf.request_eq, hf.reviewer_eq, hf.started_eq, hf.evaluated_eq]
    by_cases hlate : startBreached request.reviewStartDeadline i.reviewStartedAt i.evaluatedAt
    · have howner : request.suiteOwnerActorId = i.suiteOwner.actorId := by rw [hfields]
      have honCall : request.platformOnCallActorId = i.platformOnCall.actorId := by rw [hfields]
      rw [if_pos hlate] at hfacts
      simp only [if_pos hlate, howner, honCall]
      refine ⟨hfacts, fun s hs => ?_⟩
      rw [hs] at hlate
      exact hlate
    · rw [if_neg hlate] at hfacts ⊢
      obtain ⟨hns, haudits⟩ := hfacts
      cases hreviewer : i.assignedReviewer with
      | none => exact ⟨rfl, hns, haudits⟩
      | some actor =>
        obtain ⟨-, -, -, s, hs, -⟩ := h.reviewed actor hreviewer
        rw [hs] at hlate
        exact ⟨⟨nofun, hns, haudits⟩, s, hs, Nat.le_of_not_lt hlate⟩

theorem UnknownReviewInput.Admissible.exists_evaluation (h : i.Admissible) :
    ∃ e, evaluateUnknownReview i = .ok e := by
  obtain ⟨request, hrequest⟩ := h.exists_request
  have hvalid : i.validate = .ok () := by
    refine UnknownReviewInput.validate_eq_ok.mpr ⟨h.run_named, h.attempt_named, h.trigger_named,
      h.owner_role, h.on_call_role, h.distinct, h.evaluated_utc, h.in_order, ?_⟩
    intro actor hactor
    obtain ⟨hrole, hforeign, hother, -⟩ := h.reviewed actor hactor
    exact ⟨hrole, hforeign, hother⟩
  have hstart := h.start_ok hrequest
  by_cases hlate : startBreached request.reviewStartDeadline i.reviewStartedAt i.evaluatedAt
  · obtain ⟨digest, hdigest⟩ := (UnknownReviewInput.request_digest hrequest).mpr
      (h.escalated ((UnknownReviewInput.late_iff hrequest).mp hlate))
    obtain ⟨ns, audits, hns, haudits⟩ :=
      exists_escalation i.suiteOwner i.platformOnCall digest h.evaluated_utc
    have hverdict : Verdict i request ⟨request, .slaBreached, i.assignedReviewer, ns, audits,
        i.evaluatedAt, i.reviewStartedAt⟩ := by
      refine ⟨rfl, rfl, rfl, rfl, (if_pos hlate).symm, ?_⟩
      rw [if_pos hlate]
      exact ⟨digest, hdigest, escalationNotifications_eq_ok.mp hns,
        escalationAudits_eq_ok.mp haudits⟩
    exact ⟨⟨_, accepted_of_verdict h hrequest hverdict⟩, evaluateUnknownReview_eq_ok.mpr
      ⟨hvalid, request, hrequest, hstart, hverdict⟩⟩
  · have hverdict : Verdict i request
        ⟨request, if i.assignedReviewer.isSome then .started else .pending, i.assignedReviewer,
          [], [], i.evaluatedAt, i.reviewStartedAt⟩ := by
      refine ⟨rfl, rfl, rfl, rfl, (if_neg hlate).symm, ?_⟩
      rw [if_neg hlate]
      exact ⟨rfl, rfl⟩
    exact ⟨⟨_, accepted_of_verdict h hrequest hverdict⟩, evaluateUnknownReview_eq_ok.mpr
      ⟨hvalid, request, hrequest, hstart, hverdict⟩⟩

/-- An evaluation returns exactly on the admissible inputs: whatever the clock says, the facts
derived from them pass every check of the evaluation they are stored in. -/
theorem evaluation_returns_iff (i : UnknownReviewInput) :
    (∃ e, evaluateUnknownReview i = .ok e) ↔ i.Admissible := by
  constructor
  · rintro ⟨e, h⟩
    exact admissible_of_evaluate h
  · intro h
    exact h.exists_evaluation

/-- A stored evaluation that is in time says so by its reviewer alone and escalates nothing. -/
theorem matrix_of_in_time (e : UnknownReviewEvaluation) (h : e.status ≠ .slaBreached) :
    e.status = (if e.reviewer.isSome then .started else .pending) ∧
      e.notifications = [] ∧ e.auditFacts = [] := by
  obtain ⟨-, -, -, hmatrix⟩ := UnknownReviewEvaluation.postInit_eq_ok.mp e.accepted
  rw [UnknownReviewEvaluation.requireStatusMatrix_eq_ok] at hmatrix
  cases hstatus : e.status with
  | pending =>
    rw [hstatus] at hmatrix
    obtain ⟨hnone, hns, haudits⟩ := hmatrix
    exact ⟨by simp [hnone], hns, haudits⟩
  | started =>
    rw [hstatus] at hmatrix
    obtain ⟨⟨hsome, hns, haudits⟩, -⟩ := hmatrix
    exact ⟨by simp [Option.isSome_iff_ne_none, hsome], hns, haudits⟩
  | slaBreached => exact absurd hstatus h

/-- An accepted evaluation without a start is dated by its own instant, the others by the start. -/
theorem breached_of_accepted (hclock : e.reviewer = none → (e.status = .slaBreached ↔
      e.request.reviewStartDeadline.micros < e.evaluatedAt.micros)) :
    e.status = .slaBreached ↔
      startBreached e.request.reviewStartDeadline e.reviewStartedAt e.evaluatedAt := by
  obtain ⟨-, hstart, -, hmatrix⟩ := UnknownReviewEvaluation.postInit_eq_ok.mp e.accepted
  rw [UnknownReviewEvaluation.requireStatusMatrix_eq_ok] at hmatrix
  obtain ⟨hunreviewed, hreviewed⟩ := validateReviewerStart_eq_ok.mp hstart
  cases hreviewer : e.reviewer with
  | none =>
    rw [hunreviewed hreviewer]
    exact hclock hreviewer
  | some actor =>
    obtain ⟨-, s, hs, -⟩ := hreviewed actor hreviewer
    rw [hs]
    show _ ↔ e.request.reviewStartDeadline.micros < s.micros
    cases hstatus : e.status with
    | pending => simp [hstatus, hreviewer] at hmatrix
    | started =>
      rw [hstatus] at hmatrix
      obtain ⟨-, s', hs', hintime⟩ := hmatrix
      cases hs.symm.trans hs'
      simp only [reduceCtorEq, false_iff]
      omega
    | slaBreached =>
      rw [hstatus] at hmatrix
      simp only [true_iff]
      exact hmatrix.2 s hs

/-- Which stored evaluations the policy derives from their own inputs: all that have a reviewer,
and without one exactly those made after the request that breach when the deadline has passed. The
stored form alone does not say so. -/
theorem stored_evaluation_derivable_iff (hrequest : i.request = .ok e.request)
    (hreviewer : i.assignedReviewer = e.reviewer) (hstarted : i.reviewStartedAt = e.reviewStartedAt)
    (hevaluated : i.evaluatedAt = e.evaluatedAt)
    (hroles : i.suiteOwner.role = .suiteOwner ∧ i.platformOnCall.role = .platformOnCall) :
    evaluateUnknownReview i = .ok e ↔ (e.reviewer = none →
      e.request.requestedAt.micros ≤ e.evaluatedAt.micros ∧ (e.status = .slaBreached ↔
        e.request.reviewStartDeadline.micros < e.evaluatedAt.micros)) := by
  obtain ⟨hutc, hstart, hindependent, hmatrix⟩ :=
    UnknownReviewEvaluation.postInit_eq_ok.mp e.accepted
  obtain ⟨hunreviewed, hreviewed⟩ := validateReviewerStart_eq_ok.mp hstart
  obtain ⟨_, _, -, -, hfields⟩ := UnknownReviewInput.request_eq_ok.mp hrequest
  constructor
  · intro h hnone
    have hadmissible := admissible_of_evaluate h
    obtain ⟨-, request, hsame, -, hverdict⟩ := evaluateUnknownReview_eq_ok.mp h
    cases hrequest.symm.trans hsame
    refine ⟨?_, ?_⟩
    · rw [UnknownReviewInput.requested_at hrequest, ← hevaluated]
      exact hadmissible.in_order
    · have hdated : startBreached e.request.reviewStartDeadline i.reviewStartedAt i.evaluatedAt ↔
          e.request.reviewStartDeadline.micros < e.evaluatedAt.micros := by
        rw [hstarted, hunreviewed hnone, hevaluated]
        exact Iff.rfl
      rw [← hdated, hverdict.status_eq]
      split
      · next hlate => simp [hlate]
      · next hintime => split <;> simp [hintime]
  · intro hclock
    have hlate := breached_of_accepted fun hnone => (hclock hnone).2
    have hafter : i.observation.recordedAt.micros ≤ i.evaluatedAt.micros := by
      rw [← UnknownReviewInput.requested_at hrequest, hevaluated]
      cases hcase : e.reviewer with
      | none => exact (hclock hcase).1
      | some actor =>
        obtain ⟨-, s, -, -, hfrom, hto⟩ := hreviewed actor hcase
        omega
    have hvalid : i.validate = .ok () := by
      have haccepted := e.request.accepted
      simp only [UnknownReviewRequest.Fields.postInit, bind_eq_ok, exists_unit, hfields,
        requireNonemptyString_eq_ok, each_eq_ok, invalidIf_eq_ok] at haccepted
      obtain ⟨hrun, hattempt, hnamed, hdistinct, -⟩ := haccepted
      refine UnknownReviewInput.validate_eq_ok.mpr ⟨hrun, hattempt,
        hnamed ("triggering_actor_id", _) (by simp), hroles.1, hroles.2, hdistinct,
        hevaluated ▸ hutc, hafter, ?_⟩
      intro actor hactor
      rw [hreviewer] at hactor
      obtain ⟨hforeign, hother⟩ := hindependent actor hactor
      rw [hfields] at hforeign hother
      exact ⟨(hreviewed actor hactor).1, hforeign, hother⟩
    refine evaluateUnknownReview_eq_ok.mpr ⟨hvalid, e.request, hrequest, ?_, ?_⟩
    · rw [hreviewer, hstarted, hevaluated]
      exact hstart
    rw [UnknownReviewEvaluation.requireStatusMatrix_eq_ok] at hmatrix
    have howner : e.request.suiteOwnerActorId = i.suiteOwner.actorId := by rw [hfields]
    have honCall : e.request.platformOnCallActorId = i.platformOnCall.actorId := by rw [hfields]
    rw [← hstarted, ← hevaluated] at hlate
    by_cases hbreached : e.status = .slaBreached
    · rw [hbreached] at hmatrix
      obtain ⟨hfacts, -⟩ := hmatrix
      rw [howner, honCall, ← hevaluated] at hfacts
      have hcase := hlate.mp hbreached
      refine ⟨rfl, hreviewer.symm, hevaluated.symm, hstarted.symm, ?_, ?_⟩
      · rw [hbreached, if_pos hcase]
      · rw [if_pos hcase]
        exact hfacts
    · obtain ⟨hstatus, hns, haudits⟩ := matrix_of_in_time e hbreached
      have hcase := hbreached ∘ hlate.mpr
      refine ⟨rfl, hreviewer.symm, hevaluated.symm, hstarted.symm, ?_, ?_⟩
      · rw [if_neg hcase, hreviewer]
        exact hstatus
      · rw [if_neg hcase]
        exact ⟨hns, haudits⟩

/-- The clock of an evaluation: it breaches when the start, or its own instant while there is no
start, lies more than twenty-four hours after the observation. -/
theorem breached_iff_of_evaluate (h : evaluateUnknownReview i = .ok e) :
    e.status = .slaBreached ↔ i.Late := by
  obtain ⟨-, request, hrequest, -, hverdict⟩ := evaluateUnknownReview_eq_ok.mp h
  rw [← UnknownReviewInput.late_iff hrequest, hverdict.status_eq]
  by_cases hcase : startBreached request.reviewStartDeadline i.reviewStartedAt i.evaluatedAt
  · simp [hcase]
  · rw [if_neg hcase]
    split <;> simp [hcase]

theorem escalation_of_breached (h : evaluateUnknownReview i = .ok e)
    (hbreached : e.status = .slaBreached) :
    Escalates e.request i.suiteOwner.actorId i.platformOnCall.actorId i.evaluatedAt e.toFields := by
  obtain ⟨-, request, -, -, hverdict⟩ := evaluateUnknownReview_eq_ok.mp h
  have hstatus := hverdict.status_eq
  have hfacts := hverdict.facts_eq
  rw [hverdict.request_eq]
  by_cases hcase : startBreached request.reviewStartDeadline i.reviewStartedAt i.evaluatedAt
  · rwa [if_pos hcase] at hfacts
  · rw [hbreached, if_neg hcase] at hstatus
    split at hstatus <;> cases hstatus

theorem request_of_evaluate (h : evaluateUnknownReview i = .ok e) : i.request = .ok e.request := by
  obtain ⟨-, request, hrequest, -, hverdict⟩ := evaluateUnknownReview_eq_ok.mp h
  rw [hrequest, hverdict.request_eq]

/-- The start an evaluation is given, or its own instant, is not after it. -/
theorem started_by_evaluation (h : evaluateUnknownReview i = .ok e) :
    (i.reviewStartedAt.getD i.evaluatedAt).micros ≤ i.evaluatedAt.micros := by
  have hadmissible := admissible_of_evaluate h
  cases hactor : i.assignedReviewer with
  | none =>
    rw [hadmissible.unreviewed hactor]
    exact Nat.le_refl _
  | some actor =>
    obtain ⟨-, -, -, s, hs, -, -, hbefore⟩ := hadmissible.reviewed actor hactor
    rw [hs]
    exact hbefore

/-- A breach stands: once an evaluation breached, every later one of the same observation does,
unless it is given a start that an earlier evaluation could have seen. Both escalate the same
request to the same recipients. -/
theorem breach_stands {j : UnknownReviewInput} {f : UnknownReviewEvaluation}
    (he : evaluateUnknownReview i = .ok e) (hf : evaluateUnknownReview j = .ok f)
    (hsame : j = { i with
      assignedReviewer := j.assignedReviewer
      reviewStartedAt := j.reviewStartedAt
      evaluatedAt := j.evaluatedAt })
    (hlater : i.evaluatedAt.micros ≤ j.evaluatedAt.micros)
    (hstart : ∀ s, j.reviewStartedAt = some s →
      i.reviewStartedAt = some s ∨ i.evaluatedAt.micros ≤ s.micros)
    (hbreached : e.status = .slaBreached) :
    f.status = .slaBreached ∧ f.request = e.request ∧
      f.notifications.map (fun n => (n.kind, n.recipientActorId, n.requestDigest)) =
        e.notifications.map (fun n => (n.kind, n.recipientActorId, n.requestDigest)) := by
  have hactors : j.observation = i.observation ∧ j.suiteOwner = i.suiteOwner ∧
      j.platformOnCall = i.platformOnCall := by
    rw [hsame]
    exact ⟨rfl, rfl, rfl⟩
  have hrequest : f.request = e.request := by
    have hinput : j.request = i.request := by
      rw [hsame]
      rfl
    have hstored := hinput.trans (request_of_evaluate he)
    exact Except.ok.inj ((request_of_evaluate hf).symm.trans hstored)
  have hlate := (breached_iff_of_evaluate he).mp hbreached
  have hseen := started_by_evaluation he
  have hstill : f.status = .slaBreached := by
    refine (breached_iff_of_evaluate hf).mpr ?_
    rw [UnknownReviewInput.Late] at hlate ⊢
    rw [hactors.1]
    cases hcase : j.reviewStartedAt with
    | none =>
      rw [Option.getD_none]
      omega
    | some s =>
      rw [Option.getD_some]
      rcases hstart s hcase with hknown | hafter
      · rwa [hknown, Option.getD_some] at hlate
      · omega
  refine ⟨hstill, hrequest, ?_⟩
  obtain ⟨digest, hdigest, hns, -⟩ := escalation_of_breached he hbreached
  obtain ⟨digest', hdigest', hns', -⟩ := escalation_of_breached hf hstill
  rw [hrequest, hdigest] at hdigest'
  rw [hactors.2.1, hactors.2.2, ← Except.ok.inj hdigest'] at hns'
  have hread : ∀ ns : List UnknownReviewNotification,
      ns.map (fun n => (n.kind, n.recipientActorId, n.requestDigest)) =
        (ns.map (·.toFields)).map fun n => (n.kind, n.recipientActorId, n.requestDigest) := by
    intro ns
    rw [List.map_map]
    rfl
  rw [hread, hread, hns, hns']
  rfl

end

/-- An observation nobody reviews for a day and a microsecond. -/
def unattended : UnknownReviewInput where
  runId := "run-1"
  attemptId := "attempt-1"
  observation := ⟨⟨"unknown-1", .workerLostAfterCommit, .coordinator, Digest.zero,
    ⟨1000000, some 0⟩⟩, by decide⟩
  triggeringActorId := "trigger"
  suiteOwner := ⟨⟨"owner", .suiteOwner⟩, by decide⟩
  platformOnCall := ⟨⟨"on-call", .platformOnCall⟩, by decide⟩
  assignedReviewer := none
  reviewStartedAt := none
  evaluatedAt := ⟨86401000001, some 0⟩

/-- Its review starts at the instant of the breach. -/
def attended : UnknownReviewInput :=
  { unattended with
    assignedReviewer := some ⟨⟨"reviewer", .reviewer⟩, by decide⟩
    reviewStartedAt := some ⟨86401000001, some 0⟩
    evaluatedAt := ⟨86401000002, some 0⟩ }

theorem unattended_admissible : unattended.Admissible where
  run_named := rfl
  attempt_named := rfl
  trigger_named := rfl
  owner_role := rfl
  on_call_role := rfl
  distinct := by decide
  evaluated_utc := rfl
  in_order := by decide
  unreviewed := fun _ => rfl
  reviewed := nofun
  deadline_exists := by decide
  observation_id := rfl
  escalated := fun _ => ⟨rfl, rfl, rfl, rfl, rfl⟩

theorem attended_admissible : attended.Admissible where
  run_named := rfl
  attempt_named := rfl
  trigger_named := rfl
  owner_role := rfl
  on_call_role := rfl
  distinct := by decide
  evaluated_utc := rfl
  in_order := by decide
  unreviewed := nofun
  reviewed := by
    rintro _ ⟨⟩
    exact ⟨rfl, by decide, by decide, _, rfl, rfl, by decide, by decide⟩
  deadline_exists := by decide
  observation_id := rfl
  escalated := fun _ => ⟨rfl, rfl, rfl, rfl, rfl⟩

theorem breach_stands_attended : ∃ e f, evaluateUnknownReview unattended = .ok e ∧
    evaluateUnknownReview attended = .ok f ∧ f.status = .slaBreached ∧ f.request = e.request ∧
    f.notifications.map (fun n => (n.kind, n.recipientActorId, n.requestDigest)) =
      e.notifications.map (fun n => (n.kind, n.recipientActorId, n.requestDigest)) := by
  obtain ⟨e, he⟩ := unattended_admissible.exists_evaluation
  obtain ⟨f, hf⟩ := attended_admissible.exists_evaluation
  refine ⟨e, f, he, hf, breach_stands he hf rfl (by decide) ?_
    ((breached_iff_of_evaluate he).mpr (by decide))⟩
  rintro _ ⟨⟩
  exact Or.inr (by decide)

theorem stored_evaluation_derivable_iff_unattended : ∃ e : UnknownReviewEvaluation,
    unattended.request = .ok e.request ∧ (evaluateUnknownReview unattended = .ok e ↔
      (e.reviewer = none → e.request.requestedAt.micros ≤ e.evaluatedAt.micros ∧
        (e.status = .slaBreached ↔
          e.request.reviewStartDeadline.micros < e.evaluatedAt.micros))) := by
  obtain ⟨e, he⟩ := unattended_admissible.exists_evaluation
  obtain ⟨-, request, -, -, hverdict⟩ := evaluateUnknownReview_eq_ok.mp he
  exact ⟨e, request_of_evaluate he, stored_evaluation_derivable_iff (request_of_evaluate he)
    hverdict.reviewer_eq.symm hverdict.started_eq.symm hverdict.evaluated_eq.symm ⟨rfl, rfl⟩⟩

end QaRunner
