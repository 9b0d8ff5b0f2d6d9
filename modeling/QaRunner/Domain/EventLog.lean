import QaRunner.Domain.Attempt
import QaRunner.Lib.Aggregate
import QaRunner.Lib.NumberedLog

/-! Runs of an Attempt's commands, and the event log they leave. -/
namespace QaRunner
open Guarded Aggregate NumberedLog

/-- One call of a command of an Attempt. -/
inductive AttemptCall where
  | transition (target : AttemptState) (expectedVersion : ℤ)
  | markUnknown (observation : UnknownObservation) (authority : AttemptAuthority)
    (expectedVersion : ℤ)
  | appendUnknownAdjudication (adjudication : UnknownAdjudication) (expectedVersion : ℤ)
  | recordEvent (event : AttemptEvent) (authority : AttemptAuthority) (worker : WorkerRef)
    (fence expectedVersion : ℤ)
  | finalizeEvidence (report : EvidenceReport) (expectedVersion : ℤ)
    (cancellationStop : Option TrustedCancellationStop)
  | finalizeCancellationEvidence (report : EvidenceReport)
    (cancellationStop : TrustedCancellationStop) (expectedVersion : ℤ)

namespace Attempt

/-- One call on an Attempt, keeping the Attempt of its result. -/
def exec (a : Attempt) : AttemptCall → Result Attempt
  | .transition target v => a.transition target v
  | .markUnknown observation authority v => a.markUnknown observation authority v
  | .appendUnknownAdjudication adjudication v => a.appendUnknownAdjudication adjudication v
  | .recordEvent event authority worker fence v => a.recordEvent event authority worker fence v
  | .finalizeEvidence report v stop => do
    let result ← a.finalizeEvidence report v stop
    return result.attempt
  | .finalizeCancellationEvidence report stop v => do
    let result ← a.finalizeCancellationEvidence report stop v
    return result.attempt

/-- The event a call stores, when it is accepted and was not stored before. -/
def storedBy (a : Attempt) : AttemptCall → List AttemptEvent
  | .recordEvent event authority worker fence v =>
    match a.recordEvent event authority worker fence v with
    | .ok _ => if event ∈ a.events then [] else [event]
    | .error _ => []
  | _ => []

/-- The events accepted along a run, in the order they arrived. -/
def acceptedEvents (a : Attempt) : List AttemptCall → List AttemptEvent
  | [] => []
  | call :: calls => a.storedBy call ++ acceptedEvents (apply exec a call) calls

/-- The log counts its events from one, and an id occurs once. -/
def Counted (a : Attempt) : Prop := Numbered (·.eventId) (·.eventSeq) a.events

/-- The event shares its id or its number with a stored one. -/
def Clashes (a : Attempt) (event : AttemptEvent) : Prop :=
  ∃ stored ∈ a.events, stored.eventId = event.eventId ∨ stored.eventSeq = event.eventSeq

variable {a b : Attempt} {event : AttemptEvent}

theorem findEvent_eq_none : a.findEvent event = none ↔ ¬ a.Clashes event := by
  simp [findEvent, Clashes]

theorem expectedNext_eq (h : a.Counted) : a.expectedNext = a.events.length + 1 := by
  unfold expectedNext
  cases hlast : a.events.getLast? with
  | none =>
    rw [List.getLast?_eq_none_iff.mp hlast]
    rfl
  | some last => exact congrArg (· + 1) (h.no_last hlast)

/-- In a counted log the first clash of a stored event is that event. -/
theorem findEvent_of_mem (h : a.Counted) (hmem : event ∈ a.events) :
    a.findEvent event = some event := by
  cases hfound : a.findEvent event with
  | none => exact absurd ⟨event, hmem, Or.inl rfl⟩ (findEvent_eq_none.mp hfound)
  | some stored =>
    have hclash := List.find?_some hfound
    have hstored : stored ∈ a.events := List.mem_of_find?_eq_some hfound
    rw [h.eq_of_clash hstored hmem (by simpa using hclash)]

theorem storedBy_of_error {e : DomainError} {call : AttemptCall} (h : a.exec call = .error e) :
    a.storedBy call = [] := by
  cases call with
  | recordEvent event authority worker fence v =>
    simp only [exec] at h
    rw [storedBy, h]
  | _ => rfl

/-- The Attempt after a call that stores nothing. -/
structure Keeps (a b : Attempt) (call : AttemptCall) : Prop where
  events : b.events = a.events
  stores : a.storedBy call = []
  terminal : a.state.terminal = true → b.state.terminal = true

/-- The Attempt after a call that stores a fresh event with the next number. -/
structure Stores (a b : Attempt) (call : AttemptCall) (event : AttemptEvent) : Prop where
  offered : ∃ authority worker fence v, call = .recordEvent event authority worker fence v
  events : b.events = a.events ++ [event]
  stores : a.storedBy call = [event]
  live : a.state.terminal = false
  fresh : ¬ a.Clashes event
  next : event.eventSeq = a.expectedNext

theorem recordEvent_cases {authority : AttemptAuthority} {worker : WorkerRef} {fence v : ℤ}
    (h : a.recordEvent event authority worker fence v = .ok b) :
    Keeps a b (.recordEvent event authority worker fence v) ∨
      Stores a b (.recordEvent event authority worker fence v) event := by
  rcases (recordEvent_eq_ok.mp h).2 with ⟨hfound, rfl⟩ | ⟨hfound, -, hlive, hnext, hb⟩
  · have hmem : event ∈ b.events := List.mem_of_find?_eq_some hfound
    refine Or.inl ⟨rfl, ?_, id⟩
    simp only [storedBy, h, if_pos hmem]
  · have hfresh := findEvent_eq_none.mp hfound
    have hnew : event ∉ a.events := fun hmem => hfresh ⟨event, hmem, Or.inl rfl⟩
    refine Or.inr ⟨⟨_, _, _, _, rfl⟩, by rw [hb], ?_, hlive, hfresh, hnext⟩
    simp only [storedBy, h, if_neg hnew]

theorem finalizeWith_keeps {report : EvidenceReport} {stop : Option TrustedCancellationStop}
    {v : ℤ} {r : FinalizeEvidenceResult} (h : a.finalizeWith report stop v = .ok r) :
    r.attempt.events = a.events ∧
      (a.state.terminal = true → r.attempt.state.terminal = true) := by
  rcases (finalizeWith_eq_ok.mp h).2.2.2 with ⟨-, hsame, -⟩ | ⟨-, -, -, hstate, -, hb⟩
  · rw [hsame]
    exact ⟨rfl, id⟩
  · rw [hb, hstate]
    exact ⟨rfl, nofun⟩

/-- An accepted call keeps the log, or it stores one fresh event with the next number. -/
theorem exec_cases {call : AttemptCall} (h : a.exec call = .ok b) :
    Keeps a b call ∨ ∃ event, Stores a b call event := by
  cases call with
  | transition target v =>
    obtain ⟨-, htarget, hb⟩ := transition_eq_ok.mp h
    refine Or.inl ⟨by rw [hb], rfl, fun hterminal => ?_⟩
    revert htarget hterminal
    cases a.state <;> simp [AttemptState.allowedTransitions, AttemptState.terminal,
      AttemptState.evidenceTerminal]
  | markUnknown observation authority v =>
    rcases (markUnknown_eq_ok.mp h).2 with ⟨-, rfl⟩ | ⟨-, -, -, hb⟩
    · exact Or.inl ⟨rfl, rfl, id⟩
    · exact Or.inl ⟨by rw [hb], rfl, fun _ => by rw [hb]; rfl⟩
  | appendUnknownAdjudication adjudication v =>
    rcases appendUnknownAdjudication_eq_ok.mp h with ⟨-, rfl⟩ | ⟨-, -, hb⟩
    · exact Or.inl ⟨rfl, rfl, id⟩
    · exact Or.inl ⟨by rw [hb], rfl, fun hterminal => by rwa [hb]⟩
  | recordEvent event authority worker fence v =>
    rcases recordEvent_cases h with hkeeps | hstores
    · exact Or.inl hkeeps
    · exact Or.inr ⟨event, hstores⟩
  | finalizeEvidence report v stop =>
    simp only [exec, finalizeEvidence, bind_eq_ok, exists_unit, pure_eq_ok] at h
    obtain ⟨r, ⟨-, hr⟩, rfl⟩ := h
    obtain ⟨hevents, hterminal⟩ := finalizeWith_keeps hr
    exact Or.inl ⟨hevents, rfl, hterminal⟩
  | finalizeCancellationEvidence report stop v =>
    simp only [exec, finalizeCancellationEvidence, bind_eq_ok, pure_eq_ok] at h
    obtain ⟨r, hr, rfl⟩ := h
    obtain ⟨hevents, hterminal⟩ := finalizeWith_keeps hr
    exact Or.inl ⟨hevents, rfl, hterminal⟩

theorem apply_keeps_or_stores (a : Attempt) (call : AttemptCall) :
    Keeps a (apply exec a call) call ∨ ∃ event, Stores a (apply exec a call) call event := by
  cases h : a.exec call with
  | error e =>
    have hsame : apply exec a call = a := by
      rw [apply, h]
    rw [hsame]
    exact Or.inl ⟨rfl, storedBy_of_error h, id⟩
  | ok b =>
    rw [apply_of_ok h]
    exact exec_cases h

theorem apply_counted (h : a.Counted) (call : AttemptCall) : (apply exec a call).Counted := by
  rcases apply_keeps_or_stores a call with hkeeps | ⟨event, hstores⟩
  · rw [Counted, hkeeps.events]
    exact h
  · rw [Counted, hstores.events]
    refine h.append (hstores.next.trans (expectedNext_eq h)) fun stored hstored hsame => ?_
    exact hstores.fresh ⟨stored, hstored, Or.inl hsame⟩

/-- The log grows by the accepted events, in their order. -/
theorem events_after (a : Attempt) (calls : List AttemptCall) :
    (after exec a calls).events = a.events ++ a.acceptedEvents calls := by
  induction calls generalizing a with
  | nil => exact (List.append_nil _).symm
  | cons call calls ih =>
    rw [acceptedEvents, ← List.append_assoc]
    refine (ih (apply exec a call)).trans (congrArg (· ++ _) ?_)
    rcases apply_keeps_or_stores a call with hkeeps | ⟨event, hstores⟩
    · rw [hkeeps.events, hkeeps.stores, List.append_nil]
    · rw [hstores.events, hstores.stores]

theorem after_counted (h : a.Counted) (calls : List AttemptCall) :
    (after exec a calls).Counted := by
  induction calls generalizing a with
  | nil => exact h
  | cons call calls ih => exact ih (apply_counted h call)

/-- A terminal Attempt stays terminal and keeps its log. -/
theorem after_terminal (h : a.state.terminal = true) (calls : List AttemptCall) :
    (after exec a calls).state.terminal = true ∧ (after exec a calls).events = a.events := by
  induction calls generalizing a with
  | nil => exact ⟨h, rfl⟩
  | cons call calls ih =>
    rcases apply_keeps_or_stores a call with hkeeps | ⟨event, hstores⟩
    · obtain ⟨hterminal, hevents⟩ := ih (hkeeps.terminal h)
      exact ⟨hterminal, hevents.trans hkeeps.events⟩
    · exact absurd hstores.live (by rw [h]; decide)

variable {authority : AttemptAuthority} {worker : WorkerRef} {fence v : ℤ}

/-- An exact repeat is answered with the Attempt as it is, at any version. -/
theorem recordEvent_repeat (h : a.Counted) (hmem : event ∈ a.events)
    (hauthority : a.ensureAuthority authority worker fence = .ok ()) :
    a.recordEvent event authority worker fence v = .ok a :=
  recordEvent_eq_ok.mpr ⟨hauthority, Or.inl ⟨findEvent_of_mem h hmem, rfl⟩⟩

/-- Other content under a stored id or number, and any other number than the next, is refused. -/
theorem recordEvent_refused (h : a.Counted) (hnew : event ∉ a.events)
    (hbad : a.Clashes event ∨ event.eventSeq ≠ a.events.length + 1) :
    ∃ e, a.recordEvent event authority worker fence v = .error e := by
  cases hcall : a.recordEvent event authority worker fence v with
  | error e => exact ⟨e, rfl⟩
  | ok b =>
    exfalso
    rcases (recordEvent_eq_ok.mp hcall).2 with ⟨hfound, -⟩ | ⟨hfound, -, -, hnext, -⟩
    · exact hnew (List.mem_of_find?_eq_some hfound)
    · rcases hbad with hclash | hgap
      · exact findEvent_eq_none.mp hfound hclash
      · exact hgap (hnext.trans (expectedNext_eq h))

/-- No check of an Attempt reads its events. -/
theorem exists_append (a : Attempt) (event : AttemptEvent) :
    ∃ b : Attempt, b.toFields = { a.toFields with
      events := a.events ++ [event]
      version := a.version + 1 } := by
  refine ⟨⟨_, ?_⟩, rfl⟩
  have h := a.accepted
  simp only [Fields.postInit, then_eq_ok, invalidAttemptIf_eq_ok] at h ⊢
  obtain ⟨hids, hpositive, hversion, hchecks⟩ := h
  exact ⟨hids, hpositive, by omega, hchecks⟩

theorem recordEvent_next (h : a.Counted)
    (hauthority : a.ensureAuthority authority worker fence = .ok ()) (hfresh : ¬ a.Clashes event)
    (hnext : event.eventSeq = a.events.length + 1) (hlive : a.state.terminal = false)
    (hversion : v = a.version) : ∃ b, a.recordEvent event authority worker fence v = .ok b ∧
      b.events = a.events ++ [event] := by
  obtain ⟨b, hb⟩ := exists_append a event
  refine ⟨b, recordEvent_eq_ok.mpr ⟨hauthority, Or.inr ⟨findEvent_eq_none.mpr hfresh,
    ⟨?_, hversion⟩, hlive, hnext.trans (expectedNext_eq h).symm, hb⟩⟩, by rw [hb]⟩
  have hchecks := a.accepted
  simp only [Fields.postInit, then_eq_ok, invalidAttemptIf_eq_ok] at hchecks
  omega

/-- Each event of the run is one of the Worker's, or it reuses an id or a number stored by then. -/
def FromWorker (sent : List AttemptEvent) (a₀ : Attempt) (calls : List AttemptCall) : Prop :=
  ∀ a event authority worker fence v,
    Issued exec a₀ calls a (.recordEvent event authority worker fence v) →
      event ∈ sent ∨ a.Clashes event

theorem accepted_fromWorker {sent : List AttemptEvent} {calls : List AttemptCall}
    (h : FromWorker sent a calls) : ∀ event ∈ a.acceptedEvents calls, event ∈ sent := by
  induction calls generalizing a with
  | nil => exact nofun
  | cons call calls ih =>
    rw [acceptedEvents, List.forall_mem_append]
    constructor
    · rcases apply_keeps_or_stores a call with hkeeps | ⟨event, hstores⟩
      · rw [hkeeps.stores]
        exact nofun
      · obtain ⟨authority, worker, fence, v, rfl⟩ := hstores.offered
        rw [hstores.stores, List.forall_mem_singleton]
        exact (h a event authority worker fence v ⟨[], calls, rfl, rfl⟩).resolve_right hstores.fresh
    · apply ih
      rintro b event authority worker fence v ⟨earlier, later, rfl, rfl⟩
      exact h _ event authority worker fence v ⟨call :: earlier, later, rfl, rfl⟩

theorem create_counted {attemptId runId : Str} {attemptNo fence : ℤ} {assignmentId : Str}
    {worker : WorkerRef} {specDigest : Digest} {key : Str} {provenance : Option RetryProvenance}
    (h : create attemptId runId attemptNo fence assignmentId worker specDigest key provenance =
      .ok a) : a.events = [] ∧ a.Counted := by
  have hempty : a.events = [] := by
    rw [new_eq_ok.mp h]
  refine ⟨hempty, ?_⟩
  rw [Counted, hempty]
  exact numbered_nil

/-- Whatever calls an Attempt receives, its log is the events it accepted, counted from one: a
Worker's events arrive in order and once, repeats change nothing, what does not fit is refused, and
a terminal Attempt takes no more. -/
theorem event_delivery {attemptId runId : Str} {attemptNo fence : ℤ} {assignmentId : Str}
    {worker : WorkerRef} {specDigest : Digest} {key : Str} {provenance : Option RetryProvenance}
    {a₀ : Attempt} (h : create attemptId runId attemptNo fence assignmentId worker specDigest key
      provenance = .ok a₀) (calls : List AttemptCall) :
    let a := after exec a₀ calls
    (a.events = a₀.acceptedEvents calls ∧ a.Counted) ∧
      (∀ sent : List AttemptEvent, (∀ i (h : i < sent.length), sent[i].eventSeq = i + 1) →
        FromWorker sent a₀ calls → a.events <+: sent) ∧
      (∀ event authority worker fence v, a.ensureAuthority authority worker fence = .ok () →
        (event ∈ a.events → a.recordEvent event authority worker fence v = .ok a) ∧
        (event ∉ a.events → a.Clashes event ∨ event.eventSeq ≠ a.events.length + 1 →
          (∃ e, a.recordEvent event authority worker fence v = .error e) ∧
            apply exec a (.recordEvent event authority worker fence v) = a) ∧
        (¬ a.Clashes event → event.eventSeq = a.events.length + 1 → a.state.terminal = false →
          v = a.version → ∃ b, a.recordEvent event authority worker fence v = .ok b ∧
            b.events = a.events ++ [event])) ∧
      (a.state.terminal = true → ∀ later, (after exec a later).events = a.events) := by
  intro a
  obtain ⟨hempty, hcounted₀⟩ := create_counted h
  have hcounted : a.Counted := after_counted hcounted₀ calls
  have hlog : a.events = a₀.acceptedEvents calls := by
    rw [events_after, hempty, List.nil_append]
  refine ⟨⟨hlog, hcounted⟩, fun sent hsent hworker => ?_,
    fun event authority worker fence v hauthority => ⟨fun hmem => ?_, fun hnew hbad => ?_,
      fun hfresh hnext hlive hversion => ?_⟩, fun hterminal later => ?_⟩
  · apply hcounted.isPrefix hsent
    rw [hlog]
    exact accepted_fromWorker hworker
  · exact recordEvent_repeat hcounted hmem hauthority
  · have hrefused : ∃ e, a.recordEvent event authority worker fence v = .error e :=
      recordEvent_refused hcounted hnew hbad
    refine ⟨hrefused, ?_⟩
    obtain ⟨e, herror⟩ := hrefused
    have hexec : exec a (.recordEvent event authority worker fence v) = .error e := herror
    rw [apply, hexec]
  · exact recordEvent_next hcounted hauthority hfresh hnext hlive hversion
  · exact (after_terminal hterminal later).2

def eventWorker : WorkerRef := ⟨⟨"worker-1", 1⟩, WorkerRef.first_accepted⟩

/-- An event as the Worker numbers it. -/
def startedEvent : AttemptEvent := ⟨⟨"event-1", 1, "started", .zero⟩, by decide⟩

def finishedEvent : AttemptEvent := ⟨⟨"event-2", 2, "finished", .zero⟩, by decide⟩

def reportEvent (event : AttemptEvent) (v : ℤ) : AttemptCall :=
  .recordEvent event ⟨⟨1, eventWorker⟩, by decide⟩ eventWorker 1 v

/-- The second event comes first and is refused, then both arrive, and the first once more. -/
theorem event_delivery_reordered :
    let calls := [reportEvent finishedEvent 0, reportEvent startedEvent 0,
      reportEvent finishedEvent 1, reportEvent startedEvent 0]
    ∃ a₀, create "attempt-1" "run-1" 1 1 "assignment-1" eventWorker .zero "key-1" none = .ok a₀ ∧
      a₀.acceptedEvents calls = [startedEvent, finishedEvent] ∧
      (after exec a₀ calls).events = a₀.acceptedEvents calls := by
  intro calls
  let a₀ : Attempt := ⟨⟨"attempt-1", "run-1", 1, 1, "assignment-1", eventWorker, .zero, "key-1", [],
    none, none, [], .startCommitted, 0, none⟩, by decide⟩
  have h : create "attempt-1" "run-1" 1 1 "assignment-1" eventWorker .zero "key-1" none = .ok a₀ :=
    new_eq_ok.mpr rfl
  exact ⟨a₀, h, by decide, (event_delivery h calls).1.1⟩

end Attempt
end QaRunner
