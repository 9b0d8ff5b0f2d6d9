import QaRunner.Domain.Worker
import QaRunner.Lib.Aggregate

/-! The lifecycle of one Worker generation: registration, declared transitions, the reconcile
that recovers an offline generation, and the Assignment facts that make it busy. Derived over
every run of these commands: what stays fixed, which states a run can reach from which, and
what makes a generation claimable again. -/
namespace QaRunner
open Guarded Aggregate

/-- The edges `transition` may take. -/
def WorkerState.allowedTransitions : WorkerState → List WorkerState
  | .registering => [.ready, .quarantined]
  | .ready => [.draining, .offline, .quarantined]
  | .busy => [.draining, .offline, .quarantined]
  | .draining => [.retired, .offline, .quarantined]
  | .offline => [.quarantined]
  | .quarantined => [.retired]
  | .retired => []

/-- States in which a generation may claim work. -/
def WorkerState.Claimable (s : WorkerState) : Prop := s = .ready ∨ s = .busy

instance (s : WorkerState) : Decidable s.Claimable := inferInstanceAs (Decidable (_ ∨ _))

structure ReconcileWorkerFacts.Fields where
  activeAssignments : ℤ
  drainRequested : Bool
  deriving DecidableEq

def ReconcileWorkerFacts.Fields.postInit (f : ReconcileWorkerFacts.Fields) : Result Unit :=
  invalidIf (f.activeAssignments < 0) "reconcile_worker_facts" "active_assignments" "negative"

/-- Trusted facts used to derive state during Worker reconcile. -/
structure ReconcileWorkerFacts extends ReconcileWorkerFacts.Fields where
  accepted : toFields.postInit = .ok ()

def ReconcileWorkerFacts.new : ReconcileWorkerFacts.Fields → Result ReconcileWorkerFacts :=
  construct ReconcileWorkerFacts.Fields.postInit ReconcileWorkerFacts.mk

theorem ReconcileWorkerFacts.new_eq_ok {f : Fields} {facts : ReconcileWorkerFacts} :
    new f = .ok facts ↔ facts.toFields = f := by
  simp only [new, construct_eq_ok]
  constructor
  · rintro ⟨_, rfl⟩
    rfl
  · rintro rfl
    exact ⟨facts.accepted, rfl⟩

def workerStateFromFacts (facts : ReconcileWorkerFacts) : WorkerState :=
  if facts.drainRequested then .draining
  else if facts.activeAssignments > 0 then .busy
  else .ready

namespace WorkerGeneration

def new : Fields → Result WorkerGeneration :=
  construct Fields.postInit WorkerGeneration.mk

/-- Create a generation that must pass registration before claiming. -/
def register (ref : WorkerRef) (hostId poolId certSerial agentVersion : Str)
    (capabilitiesDigest : Digest) (registeredAt : Datetime) : Result WorkerGeneration :=
  new
    { ref := ref
      hostId := hostId
      poolId := poolId
      certSerial := certSerial
      agentVersion := agentVersion
      capabilitiesDigest := capabilitiesDigest
      state := .registering
      registeredAt := registeredAt
      stateChangedAt := registeredAt
      lastSeenAt := none
      retiredAt := none
      version := 0 }

variable (w : WorkerGeneration)

def ensureVersion (expectedVersion : ℤ) : Result Unit :=
  ensureExpectedVersion "worker_generation" w.ref.workerId w.version expectedVersion

def ensureEventTime (field : String) (value : Datetime) : Result Unit := do
  requireUtc "worker_generation" field value
  invalidIf (value < w.stateChangedAt) "worker_generation" field "before_current_state"

def ensureObservationTime (field : String) (value : Datetime) : Result Unit := do
  w.ensureEventTime field value
  whenSome w.lastSeenAt fun seen =>
    invalidIf (value < seen) "worker_generation" field "before_last_seen"

def invalidTransition (target : WorkerState) (expectedVersion : ℤ) : DomainError :=
  .invalidTransition "worker_generation" w.ref.workerId w.state.value target.value w.version
    expectedVersion

/-- Apply a declared state edge; offline recovery requires `reconcile`. -/
def transition (target : WorkerState) (authority : WorkerAuthority) (expectedVersion : ℤ)
    (occurredAt : Datetime) : Result WorkerGeneration := do
  w.ensureAuthority authority
  w.ensureVersion expectedVersion
  w.ensureEventTime "occurred_at" occurredAt
  raiseIf (target ∉ w.state.allowedTransitions) (w.invalidTransition target expectedVersion)
  new { w.toFields with
    state := target
    stateChangedAt := occurredAt
    lastSeenAt := if target = .ready then some occurredAt else w.lastSeenAt
    retiredAt := if target = .retired then some occurredAt else none
    version := w.version + 1 }

/-- Recover an offline current generation after authenticated reconcile. -/
def reconcile (authority : WorkerAuthority) (authenticatedRef : WorkerRef)
    (facts : ReconcileWorkerFacts) (expectedVersion : ℤ) (observedAt : Datetime) :
    Result WorkerGeneration := do
  w.ensureAuthority authority
  raiseIf (authenticatedRef ≠ w.ref)
    (.workerGenerationConflict w.ref.workerId w.ref.generation authenticatedRef.workerId
      authenticatedRef.generation "generation_not_current")
  w.ensureVersion expectedVersion
  w.ensureObservationTime "observed_at" observedAt
  raiseIf (w.state ≠ .offline) (w.invalidTransition (workerStateFromFacts facts) expectedVersion)
  new { w.toFields with
    state := workerStateFromFacts facts
    stateChangedAt := observedAt
    lastSeenAt := some observedAt
    version := w.version + 1 }

/-- Derive READY/BUSY from trusted active Assignment facts. -/
def observeAssignments (authority : WorkerAuthority) (activeAssignments expectedVersion : ℤ)
    (observedAt : Datetime) : Result WorkerGeneration := do
  w.ensureAuthority authority
  let facts ← ReconcileWorkerFacts.new
    { activeAssignments := activeAssignments, drainRequested := false }
  w.ensureVersion expectedVersion
  w.ensureObservationTime "observed_at" observedAt
  raiseIf (¬ w.state.Claimable)
    (w.invalidTransition (workerStateFromFacts facts) expectedVersion)
  new { w.toFields with
    state := workerStateFromFacts facts
    stateChangedAt := observedAt
    lastSeenAt := some observedAt
    version := w.version + 1 }

/-- The state-changing operations of a Worker generation with their arguments. -/
inductive Command where
  | transition (target : WorkerState) (authority : WorkerAuthority) (expectedVersion : ℤ)
      (occurredAt : Datetime)
  | reconcile (authority : WorkerAuthority) (authenticatedRef : WorkerRef)
      (facts : ReconcileWorkerFacts) (expectedVersion : ℤ) (observedAt : Datetime)
  | observeAssignments (authority : WorkerAuthority) (activeAssignments expectedVersion : ℤ)
      (observedAt : Datetime)

def exec (w : WorkerGeneration) : Command → Result WorkerGeneration
  | .transition target authority v at' => w.transition target authority v at'
  | .reconcile authority ref facts v at' => w.reconcile authority ref facts v at'
  | .observeAssignments authority active v at' => w.observeAssignments authority active v at'

def Command.authority : Command → WorkerAuthority
  | .transition _ a _ _ | .reconcile a _ _ _ _ | .observeAssignments a _ _ _ => a

def Command.expectedVersion : Command → ℤ
  | .transition _ _ v _ | .reconcile _ _ _ v _ | .observeAssignments _ _ v _ => v

/-- The instant a command carries. -/
def Command.occurredAt : Command → Datetime
  | .transition _ _ _ t | .reconcile _ _ _ _ t | .observeAssignments _ _ _ t => t

variable {w}
variable {w' : WorkerGeneration} {v : ℤ} {authority : WorkerAuthority} {t : Datetime}

theorem new_eq_ok {f : Fields} : new f = .ok w ↔ w.toFields = f := by
  simp only [new, construct_eq_ok]
  constructor
  · rintro ⟨_, rfl⟩
    rfl
  · rintro rfl
    exact ⟨w.accepted, rfl⟩

theorem ensureAuthority_eq_ok {u : Unit} :
    w.ensureAuthority authority = .ok u ↔ w.ref = authority.currentRef := by
  rw [ensureAuthority, raiseIf_eq_ok, not_not]

theorem ensureEventTime_eq_ok {field : String} {u : Unit} :
    w.ensureEventTime field t = .ok u ↔ t.IsUtc ∧ w.stateChangedAt.micros ≤ t.micros := by
  simp [ensureEventTime, then_eq_ok, requireUtc_eq_ok, invalidIf_eq_ok, Datetime.lt_def]

theorem ensureObservationTime_eq_ok {field : String} {u : Unit} :
    w.ensureObservationTime field t = .ok u ↔ (t.IsUtc ∧ w.stateChangedAt.micros ≤ t.micros) ∧
      ∀ seen, w.lastSeenAt = some seen → seen.micros ≤ t.micros := by
  simp [ensureObservationTime, then_eq_ok, ensureEventTime_eq_ok, whenSome_eq_ok,
    invalidIf_eq_ok, Datetime.lt_def]

theorem transition_eq_ok {target : WorkerState} :
    w.transition target authority v t = .ok w' ↔
      w.ref = authority.currentRef ∧ (0 ≤ v ∧ v = w.version) ∧
        (t.IsUtc ∧ w.stateChangedAt.micros ≤ t.micros) ∧ target ∈ w.state.allowedTransitions ∧
        w'.toFields = { w.toFields with
          state := target
          stateChangedAt := t
          lastSeenAt := if target = .ready then some t else w.lastSeenAt
          retiredAt := if target = .retired then some t else none
          version := w.version + 1 } := by
  simp only [transition, then_eq_ok, ensureAuthority_eq_ok, ensureVersion,
    ensureExpectedVersion_eq_ok, ensureEventTime_eq_ok, raiseIf_eq_ok, not_not, new_eq_ok]

theorem reconcile_eq_ok {ref : WorkerRef} {facts : ReconcileWorkerFacts} :
    w.reconcile authority ref facts v t = .ok w' ↔
      w.ref = authority.currentRef ∧ ref = w.ref ∧ (0 ≤ v ∧ v = w.version) ∧
        ((t.IsUtc ∧ w.stateChangedAt.micros ≤ t.micros) ∧
          ∀ seen, w.lastSeenAt = some seen → seen.micros ≤ t.micros) ∧ w.state = .offline ∧
        w'.toFields = { w.toFields with
          state := workerStateFromFacts facts
          stateChangedAt := t
          lastSeenAt := some t
          version := w.version + 1 } := by
  simp only [reconcile, then_eq_ok, ensureAuthority_eq_ok, ensureVersion,
    ensureExpectedVersion_eq_ok, ensureObservationTime_eq_ok, raiseIf_eq_ok, ne_eq, not_not,
    new_eq_ok]

theorem observeAssignments_eq_ok {active : ℤ} :
    w.observeAssignments authority active v t = .ok w' ↔
      w.ref = authority.currentRef ∧ 0 ≤ active ∧ (0 ≤ v ∧ v = w.version) ∧
        ((t.IsUtc ∧ w.stateChangedAt.micros ≤ t.micros) ∧
          ∀ seen, w.lastSeenAt = some seen → seen.micros ≤ t.micros) ∧ w.state.Claimable ∧
        w'.toFields = { w.toFields with
          state := if active > 0 then .busy else .ready
          stateChangedAt := t
          lastSeenAt := some t
          version := w.version + 1 } := by
  simp only [observeAssignments, bind_eq_ok, exists_unit, ensureAuthority_eq_ok, ensureVersion,
    ensureExpectedVersion_eq_ok, ensureObservationTime_eq_ok, raiseIf_eq_ok, not_not, new_eq_ok,
    ReconcileWorkerFacts.new_eq_ok]
  constructor
  · rintro ⟨href, facts, hfacts, hversion, htime, hclaimable, hnext⟩
    have haccepted := facts.accepted
    simp only [ReconcileWorkerFacts.Fields.postInit, invalidIf_eq_ok, hfacts, not_lt] at haccepted
    refine ⟨href, haccepted, hversion, htime, hclaimable, ?_⟩
    rw [hnext, workerStateFromFacts, hfacts]
    rfl
  · rintro ⟨href, hactive, hversion, htime, hclaimable, hnext⟩
    have haccepted : ReconcileWorkerFacts.Fields.postInit ⟨active, false⟩ = .ok () := by
      rw [ReconcileWorkerFacts.Fields.postInit, invalidIf_eq_ok]
      exact not_lt.mpr hactive
    exact ⟨href, ⟨_, haccepted⟩, rfl, hversion, htime, hclaimable, hnext⟩

/-- How a successful command moves the state. -/
inductive Move : WorkerState → Command → WorkerState → Prop
  | declared {s target a v t} (h : target ∈ s.allowedTransitions) :
      Move s (.transition target a v t) target
  | recovered {a ref facts v t} : Move .offline (.reconcile a ref facts v t)
      (workerStateFromFacts facts)
  | observed {s a active v t} (hs : s.Claimable) :
      Move s (.observeAssignments a active v t) (if active > 0 then .busy else .ready)

/-- Only the state and what records its changes differ. -/
def SameRegistration (w w' : WorkerGeneration) : Prop :=
  w'.toFields = { w.toFields with
    state := w'.state
    stateChangedAt := w'.stateChangedAt
    lastSeenAt := w'.lastSeenAt
    retiredAt := w'.retiredAt
    version := w'.version }

/-- All a successful command does: one move under the current authority against the current
version, at an instant no earlier than the last move. -/
structure Change (w : WorkerGeneration) (c : Command) (w' : WorkerGeneration) : Prop where
  authorized : w.ref = c.authority.currentRef
  expected : c.expectedVersion = w.version
  later : w.stateChangedAt.micros ≤ c.occurredAt.micros
  move : Move w.state c w'.state
  version_next : w'.version = w.version + 1
  changed_at : w'.stateChangedAt = c.occurredAt
  seen : w'.lastSeenAt = some c.occurredAt ∨
    ¬ w'.state.Claimable ∧ w'.lastSeenAt = w.lastSeenAt
  same_registration : SameRegistration w w'

theorem change_of_exec {c : Command} (h : w.exec c = .ok w') : Change w c w' := by
  cases c with
  | transition target authority v t =>
    obtain ⟨href, hversion, htime, hallowed, hnext⟩ := transition_eq_ok.mp h
    have hstate : w'.state = target := by rw [hnext]
    refine ⟨href, hversion.2, htime.2, ?_, by rw [hnext], by rw [hnext]; rfl, ?_, ?_⟩
    · rw [hstate]
      exact .declared hallowed
    · rw [hstate, hnext]
      by_cases hready : target = .ready
      · exact Or.inl (if_pos hready)
      · refine Or.inr ⟨?_, if_neg hready⟩
        rintro (rfl | rfl)
        · exact hready rfl
        · -- no edge enters busy; it is observed
          cases hs : w.state <;> simp [hs, WorkerState.allowedTransitions] at hallowed
    · rw [SameRegistration, hnext]
  | reconcile authority ref facts v t =>
    obtain ⟨href, -, hversion, htime, hoffline, hnext⟩ := reconcile_eq_ok.mp h
    have hstate : w'.state = workerStateFromFacts facts := by rw [hnext]
    refine ⟨href, hversion.2, htime.1.2, ?_, by rw [hnext], by rw [hnext]; rfl, ?_, ?_⟩
    · rw [hstate, hoffline]
      exact .recovered
    · exact Or.inl (by rw [hnext]; rfl)
    · rw [SameRegistration, hnext]
  | observeAssignments authority active v t =>
    obtain ⟨href, -, hversion, htime, hclaimable, hnext⟩ := observeAssignments_eq_ok.mp h
    have hstate : w'.state = if active > 0 then .busy else .ready := by rw [hnext]
    refine ⟨href, hversion.2, htime.1.2, ?_, by rw [hnext], by rw [hnext]; rfl, ?_, ?_⟩
    · rw [hstate]
      exact .observed hclaimable
    · exact Or.inl (by rw [hnext]; rfl)
    · rw [SameRegistration, hnext]

/-- The generation as it is registered. -/
def Registered (w : WorkerGeneration) : Prop :=
  ∃ ref host pool cert agent digest t, register ref host pool cert agent digest t = .ok w

/-- What every reachable generation satisfies: it was last seen no later than its state changed,
and exactly then while it may claim work. -/
structure Recorded (w : WorkerGeneration) : Prop where
  seen_before : ∀ seen, w.lastSeenAt = some seen → seen.micros ≤ w.stateChangedAt.micros
  seen_claimable : w.state.Claimable → w.lastSeenAt = some w.stateChangedAt

theorem recorded_of_registered (h : Registered w) : Recorded w := by
  obtain ⟨ref, host, pool, cert, agent, digest, t, hw⟩ := h
  have hfields := new_eq_ok.mp hw
  constructor
  · intro seen hseen
    simp [hfields] at hseen
  · intro hclaimable
    simp [hfields, WorkerState.Claimable] at hclaimable

theorem recorded_of_change {c : Command} (hw : Recorded w) (h : Change w c w') :
    Recorded w' := by
  constructor
  · intro seen hseen
    rw [h.changed_at]
    rcases h.seen with hnow | ⟨-, hsame⟩
    · rw [hnow] at hseen
      cases hseen
      exact Nat.le_refl _
    · have hbefore := hw.seen_before seen (hsame ▸ hseen)
      have hlater := h.later
      omega
  · intro hclaimable
    rcases h.seen with hnow | ⟨hnot, -⟩
    · rw [hnow, h.changed_at]
    · exact absurd hclaimable hnot

theorem recorded_of_reachable (h : Reachable exec Registered w) : Recorded w :=
  reachable_induction (fun _ => recorded_of_registered)
    (fun _ _ _ hw hok => recorded_of_change hw (change_of_exec hok)) h

theorem SameRegistration.trans {w'' : WorkerGeneration} (h : SameRegistration w w')
    (h' : SameRegistration w' w'') : SameRegistration w w'' := by
  unfold SameRegistration at *
  rw [h', h]

theorem ref_of_same_registration (h : SameRegistration w w') : w'.ref = w.ref := by
  rw [h]

theorem same_registration_after (w : WorkerGeneration) (cs : List Command) :
    SameRegistration w (after exec w cs) :=
  after_related (R := SameRegistration) (fun _ => rfl) (fun _ _ _ h h' => h.trans h')
    (fun _ _ _ h => (change_of_exec h).same_registration) w cs

theorem version_guarded : VersionGuarded exec (·.version) Command.expectedVersion := by
  intro w c w' h _
  have hchange := change_of_exec h
  exact ⟨hchange.expected, hchange.version_next⟩

/-- Over any run a generation stays the one that was registered, its version never goes back and
identifies the state, and neither does its clock; while it may claim work it was last seen
exactly when its state last changed. -/
theorem run_keeps_registration (hw : Reachable exec Registered w) (cs : List Command) :
    SameRegistration w (after exec w cs) ∧ w.version ≤ (after exec w cs).version ∧
      ((after exec w cs).version = w.version → after exec w cs = w) ∧
      w.stateChangedAt.micros ≤ (after exec w cs).stateChangedAt.micros ∧
      ((after exec w cs).state.Claimable →
        (after exec w cs).lastSeenAt = some (after exec w cs).stateChangedAt) := by
  have hversion := version_guarded.after w cs
  have hclock : w.stateChangedAt.micros ≤ (after exec w cs).stateChangedAt.micros := by
    refine after_related (R := fun w w' => w.stateChangedAt.micros ≤ w'.stateChangedAt.micros)
      (fun _ => Nat.le_refl _) (fun _ _ _ => Nat.le_trans) ?_ w cs
    intro w c w' h
    have hchange := change_of_exec h
    rw [hchange.changed_at]
    exact hchange.later
  exact ⟨same_registration_after w cs, hversion.1, hversion.2, hclock,
    (recorded_of_reachable (hw.after cs)).seen_claimable⟩

/-- One instant at which everything below happens. -/
def shift : Datetime := ⟨1000000, some 0⟩

/-- A generation as `register` makes it. -/
def enrolled : WorkerGeneration where
  ref := ⟨⟨"worker-1", 1⟩, WorkerRef.first_accepted⟩
  hostId := "host-1"
  poolId := "pool-1"
  certSerial := "cert-1"
  agentVersion := "agent-1"
  capabilitiesDigest := Digest.zero
  state := .registering
  registeredAt := shift
  stateChangedAt := shift
  lastSeenAt := none
  retiredAt := none
  version := 0
  accepted := by decide

theorem enrolled_reachable : Reachable exec Registered enrolled :=
  ⟨enrolled, [], ⟨_, _, _, _, _, _, _, new_eq_ok.mpr rfl⟩, rfl⟩

/-- It registers, goes offline, and comes back with one Assignment still running. -/
def lostAndFound : List Command :=
  [.transition .ready ⟨enrolled.ref⟩ 0 shift, .transition .offline ⟨enrolled.ref⟩ 1 shift,
    .reconcile ⟨enrolled.ref⟩ enrolled.ref ⟨⟨1, false⟩, rfl⟩ 2 shift]

theorem run_keeps_registration_enrolled :
    (after exec enrolled lostAndFound).state = .busy ∧
      (after exec enrolled lostAndFound).lastSeenAt =
        some (after exec enrolled lostAndFound).stateChangedAt :=
  ⟨by decide, (run_keeps_registration enrolled_reachable lostAndFound).2.2.2.2 (by decide)⟩

/-- Commands under the authority of another generation are as if they were never issued. -/
theorem foreign_commands_ignored (w : WorkerGeneration) (cs : List Command) :
    after exec w (cs.filter fun c => c.authority.currentRef = w.ref) = after exec w cs := by
  apply after_filter (P := fun u => u.ref = w.ref)
  · intro u c u' hu h
    exact (ref_of_same_registration (change_of_exec h).same_registration).trans hu
  · intro u c u' hu h
    have hauthorized := (change_of_exec h).authorized
    exact decide_eq_true (hauthorized.symm.trans hu)
  · rfl

end WorkerGeneration

/-- How far a generation is from retirement; states of one rank lead to each other. -/
def WorkerState.rank : WorkerState → ℕ
  | .registering => 0
  | .ready | .busy | .draining | .offline => 1
  | .quarantined => 2
  | .retired => 3

namespace WorkerGeneration
open WorkerState
variable {w w' : WorkerGeneration} {v : ℤ} {authority : WorkerAuthority} {t : Datetime}

theorem rank_of_move {s s' : WorkerState} {c : Command} (h : Move s c s') :
    s' ≠ .registering ∧ s.rank ≤ s'.rank := by
  cases h with
  | declared hallowed =>
    cases s <;>
      simp only [allowedTransitions, List.mem_cons, List.not_mem_nil, or_false] at hallowed
    all_goals rcases hallowed with rfl | rfl | rfl <;> decide
  | recovered =>
    unfold workerStateFromFacts
    split
    · decide
    · split <;> decide
  | observed hs =>
    rcases hs with rfl | rfl <;> split <;> decide

theorem rank_after (w : WorkerGeneration) (cs : List Command) :
    (after exec w cs).state = w.state ∨
      (after exec w cs).state ≠ .registering ∧ w.state.rank ≤ (after exec w cs).state.rank := by
  refine after_induction (P := fun u : WorkerGeneration => u.state = w.state ∨
    u.state ≠ .registering ∧ w.state.rank ≤ u.state.rank) ?_ (Or.inl rfl) cs
  intro u c u' hu h
  obtain ⟨hleft, hrank⟩ := rank_of_move (change_of_exec h).move
  refine Or.inr ⟨hleft, ?_⟩
  rcases hu with hsame | ⟨-, hbefore⟩
  · rwa [← hsame]
  · exact Nat.le_trans hbefore hrank

/-- The fields of a generation after a move at the instant of the last one are accepted. -/
theorem accepted_move (w : WorkerGeneration) (next : WorkerState) (seen : Option Datetime)
    (hseen : seen = w.lastSeenAt ∨ seen = some w.stateChangedAt) :
    Fields.postInit { w.toFields with
      state := next
      lastSeenAt := seen
      retiredAt := if next = .retired then some w.stateChangedAt else none
      version := w.version + 1 } = .ok () := by
  have haccepted := w.accepted
  simp only [Fields.postInit, then_eq_ok, invalidIf_eq_ok, whenSome_eq_ok, requireUtc_eq_ok,
    not_lt, not_not] at haccepted ⊢
  obtain ⟨htexts, hversion, hregistered, hchanged, horder, hlast, -, -⟩ := haccepted
  refine ⟨htexts, by omega, hregistered, hchanged, horder, ?_, ?_, ?_⟩
  · intro s hs
    rcases hseen with rfl | rfl
    · exact hlast s hs
    · cases hs
      exact ⟨hchanged, horder⟩
  · intro s hs
    split at hs
    · cases hs
      exact ⟨hchanged, rfl⟩
    · cases hs
  · split <;> simp_all

theorem version_nonneg (w : WorkerGeneration) : 0 ≤ w.version := by
  have haccepted := w.accepted
  simp only [Fields.postInit, then_eq_ok, invalidIf_eq_ok] at haccepted
  omega

theorem state_changed_utc (w : WorkerGeneration) : w.stateChangedAt.IsUtc := by
  have haccepted := w.accepted
  simp only [Fields.postInit, then_eq_ok, requireUtc_eq_ok] at haccepted
  exact haccepted.2.2.2.1

theorem retired_at_of_live (w : WorkerGeneration) (h : w.state ≠ .retired) :
    w.retiredAt = none := by
  have haccepted := w.accepted
  simp only [Fields.postInit, then_eq_ok, invalidIf_eq_ok, not_not] at haccepted
  have hiff := haccepted.2.2.2.2.2.2.2
  simpa [h] using hiff

/-- The moves a generation can always make, whatever happened to it before. -/
inductive Edge : WorkerState → WorkerState → Prop
  | declared {s s' : WorkerState} (h : s' ∈ s.allowedTransitions) : Edge s s'
  | recovered : Edge .offline .ready
  | busy : Edge .ready .busy

theorem exists_exec_of_edge (hw : Recorded w) {next : WorkerState} (h : Edge w.state next) :
    ∃ c w', exec w c = .ok w' ∧ w'.state = next := by
  have hversion : 0 ≤ w.version ∧ w.version = w.version := ⟨w.version_nonneg, rfl⟩
  have htime : w.stateChangedAt.IsUtc ∧ w.stateChangedAt.micros ≤ w.stateChangedAt.micros :=
    ⟨w.state_changed_utc, Nat.le_refl _⟩
  generalize hs : w.state = s at h
  cases h with
  | declared hallowed =>
    subst hs
    have haccepted := w.accepted_move next
      (if next = .ready then some w.stateChangedAt else w.lastSeenAt) (by split <;> simp)
    exact ⟨.transition next ⟨w.ref⟩ w.version w.stateChangedAt, ⟨_, haccepted⟩,
      transition_eq_ok.mpr ⟨rfl, hversion, htime, hallowed, rfl⟩, rfl⟩
  | recovered =>
    have hfacts : ReconcileWorkerFacts.Fields.postInit ⟨0, false⟩ = .ok () := rfl
    have haccepted := w.accepted_move .ready _ (Or.inr rfl)
    have hretired := w.retired_at_of_live (by simp [hs])
    refine ⟨.reconcile ⟨w.ref⟩ w.ref ⟨_, hfacts⟩ w.version w.stateChangedAt, ⟨_, haccepted⟩,
      reconcile_eq_ok.mpr ⟨rfl, rfl, hversion, ⟨htime, hw.seen_before⟩, hs, ?_⟩, rfl⟩
    simp [workerStateFromFacts, hretired]
  | busy =>
    have haccepted := w.accepted_move .busy _ (Or.inr rfl)
    have hretired := w.retired_at_of_live (by simp [hs])
    refine ⟨.observeAssignments ⟨w.ref⟩ 1 w.version w.stateChangedAt, ⟨_, haccepted⟩,
      observeAssignments_eq_ok.mpr ⟨rfl, by decide, hversion, ⟨htime, hw.seen_before⟩,
        Or.inl hs, ?_⟩, rfl⟩
    simp [hretired]

/-- Ready leads to every state that is not older than itself, and every live state to ready. -/
theorem path_of_rank {s s' : WorkerState} (hrank : s.rank ≤ s'.rank) (hnew : s' ≠ .registering) :
    Relation.ReflTransGen Edge s s' := by
  have hbusy : Relation.ReflTransGen Edge .ready .busy := .single .busy
  have hdraining : Relation.ReflTransGen Edge .ready .draining := .single (.declared (by decide))
  have hoffline : Relation.ReflTransGen Edge .ready .offline := .single (.declared (by decide))
  have hquarantined : Relation.ReflTransGen Edge .ready .quarantined :=
    .single (.declared (by decide))
  have hretired : Relation.ReflTransGen Edge .quarantined .retired :=
    .single (.declared (by decide))
  have hfrom : Relation.ReflTransGen Edge .ready s' := by
    cases s' with
    | registering => exact absurd rfl hnew
    | ready => exact .refl
    | busy => exact hbusy
    | draining => exact hdraining
    | offline => exact hoffline
    | quarantined => exact hquarantined
    | retired => exact hquarantined.trans hretired
  have hto : s.rank ≤ 1 → Relation.ReflTransGen Edge s .ready := by
    intro hlive
    have hback : Edge .offline .ready := .recovered
    cases s with
    | registering => exact .single (.declared (by decide))
    | ready => exact .refl
    | busy => exact .tail (.single (.declared (by decide))) hback
    | draining => exact .tail (.single (.declared (by decide))) hback
    | offline => exact .single hback
    | quarantined | retired => simp [rank] at hlive
  by_cases hlive : s.rank ≤ 1
  · exact (hto hlive).trans hfrom
  · -- out of service a rank is one state
    cases s with
    | quarantined =>
      cases s' with
      | quarantined => exact .refl
      | retired => exact hretired
      | registering | ready | busy | draining | offline => simp [rank] at hrank
    | retired =>
      cases s' with
      | retired => exact .refl
      | registering | ready | busy | draining | offline | quarantined => simp [rank] at hrank
    | registering | ready | busy | draining | offline => exact absurd (by decide) hlive

theorem exists_run_of_path {next : WorkerState} (hw : Recorded w)
    (h : Relation.ReflTransGen Edge w.state next) : ∃ cs, (after exec w cs).state = next := by
  generalize hs : w.state = s at h
  induction h using Relation.ReflTransGen.head_induction_on generalizing w with
  | refl => exact ⟨[], hs⟩
  | head hedge _ ih =>
    subst hs
    obtain ⟨c, u, hok, hu⟩ := exists_exec_of_edge hw hedge
    obtain ⟨cs, hcs⟩ := ih (recorded_of_change hw (change_of_exec hok)) hu
    refine ⟨c :: cs, ?_⟩
    rw [← hcs, ← apply_of_ok hok]
    rfl

/-- Exactly the states some run leads to: the present one, and every state but the first that
is no nearer to registration. Quarantine is left only for retirement. -/
theorem state_reached_iff (hw : Reachable exec Registered w) (next : WorkerState) :
    (∃ cs, (after exec w cs).state = next) ↔
      next = w.state ∨ next ≠ .registering ∧ w.state.rank ≤ next.rank := by
  constructor
  · rintro ⟨cs, rfl⟩
    exact rank_after w cs
  · rintro (rfl | ⟨hnew, hrank⟩)
    · exact ⟨[], rfl⟩
    · exact exists_run_of_path (recorded_of_reachable hw) (path_of_rank hrank hnew)

theorem state_reached_iff_enrolled :
    ∃ cs, (after exec enrolled cs).state = .offline :=
  (state_reached_iff enrolled_reachable .offline).mpr (Or.inr (by decide))

theorem not_registering_after (w : WorkerGeneration) (hw : w.state ≠ .registering)
    (cs : List Command) :
    (after exec w cs).state ≠ .registering := by
  rcases rank_after w cs with hsame | ⟨hleft, -⟩
  · rwa [hsame]
  · exact hleft

/-- A registered generation that may not claim work and later may again was reconciled in
between: while offline, authenticated as itself under its own authority, with no drain. -/
theorem claimable_again {cs : List Command} (hleft : w.state ≠ .registering)
    (hnot : ¬ w.state.Claimable) (hagain : (after exec w cs).state.Claimable) :
    ∃ u authority facts v t, Issued exec w cs u (.reconcile authority w.ref facts v t) ∧
      u.state = .offline ∧ authority.currentRef = w.ref ∧ facts.drainRequested = false := by
  obtain ⟨u, c, u', hissued, hok, hbefore, hafter⟩ :=
    exists_issued (P := fun u : WorkerGeneration => u.state.Claimable) hnot hagain
  obtain ⟨earlier, later, -, hu⟩ := id hissued
  have hnew : u.state ≠ .registering := hu ▸ not_registering_after w hleft earlier
  have href : u.ref = w.ref := hu ▸ ref_of_same_registration (same_registration_after w earlier)
  have hmove := (change_of_exec hok).move
  cases c with
  | transition target authority v t =>
    obtain ⟨-, -, -, hallowed, hnext⟩ := transition_eq_ok.mp hok
    rw [hnext] at hafter
    rcases hafter with hready | hbusy
    · simp only at hready
      subst hready
      cases hs : u.state <;> simp [hs, allowedTransitions] at hallowed hnew
    · simp only at hbusy
      subst hbusy
      cases hs : u.state <;> simp [hs, allowedTransitions] at hallowed
  | reconcile authority ref facts v t =>
    obtain ⟨hauthority, rfl, -, -, hoffline, hnext⟩ := reconcile_eq_ok.mp hok
    refine ⟨u, authority, facts, v, t, href ▸ hissued, hoffline, hauthority.symm.trans href, ?_⟩
    rw [hnext] at hafter
    by_contra hdrain
    rw [Bool.not_eq_false] at hdrain
    simp [workerStateFromFacts, hdrain, WorkerState.Claimable] at hafter
  | observeAssignments authority active v t =>
    obtain ⟨-, -, -, -, hclaimable, -⟩ := observeAssignments_eq_ok.mp hok
    exact absurd hclaimable hbefore

theorem claimable_again_enrolled :
    ∃ u authority facts v t,
      Issued exec (after exec enrolled (lostAndFound.take 2)) (lostAndFound.drop 2) u
        (.reconcile authority (after exec enrolled (lostAndFound.take 2)).ref facts v t) ∧
      u.state = .offline ∧
      authority.currentRef = (after exec enrolled (lostAndFound.take 2)).ref ∧
      facts.drainRequested = false :=
  claimable_again (by decide) (by decide) (by decide)

end WorkerGeneration
end QaRunner
