import QaRunner.Lib.InstantText
import QaRunner.Lib.KeyedTable
import QaRunner.Lib.Steps

/-! The cron schedules of the store: the claim of a tick, the writers beside it, and that the ticks
claimed of one schedule follow each other in time. -/
namespace QaRunner
open Relation

/-- Configuration for automated test runs on cron schedule. -/
structure TestSchedule where
  id : String
  name : String
  profileId : String
  cronExpression : String
  enabled : Bool := true
  timezone : String := "UTC"
  lastRunAt : Option Datetime := none
  nextRunAt : Option Datetime := none
  createdBy : String
  createdAt : Datetime

/-- A row of `test_schedules`. -/
structure ScheduleRow where
  id : String
  name : String
  profileId : String
  cronExpression : String
  enabled : ℤ
  timezone : String
  lastRunAt : Option String
  nextRunAt : Option String
  createdBy : String
  createdAt : String

def dtToIso (dt : Option Datetime) : Option String := dt.map Datetime.text

/-- The row an insert of the schedule writes. -/
def TestSchedule.row (schedule : TestSchedule) : ScheduleRow where
  id := schedule.id
  name := schedule.name
  profileId := schedule.profileId
  cronExpression := schedule.cronExpression
  enabled := if schedule.enabled then 1 else 0
  timezone := schedule.timezone
  lastRunAt := dtToIso schedule.lastRunAt
  nextRunAt := dtToIso schedule.nextRunAt
  createdBy := schedule.createdBy
  createdAt := schedule.createdAt.text

/-- `DO UPDATE SET` of an insert that met a stored row: every column but `last_run_at`. -/
def ScheduleRow.mergeExcluded (excluded stored : ScheduleRow) : ScheduleRow :=
  { excluded with id := stored.id, lastRunAt := stored.lastRunAt }

def ScheduleRow.setLastRunAt (row : ScheduleRow) (fireIso : String) : ScheduleRow :=
  { row with lastRunAt := some fireIso }

def ScheduleRow.setNextRunAt (row : ScheduleRow) (nextRunAt : Option Datetime) : ScheduleRow :=
  { row with nextRunAt := dtToIso nextRunAt }

theorem ScheduleRow.mergeExcluded_id {excluded stored : ScheduleRow} :
    (excluded.mergeExcluded stored).id = stored.id := rfl

theorem ScheduleRow.setLastRunAt_id {row : ScheduleRow} {fireIso : String} :
    (row.setLastRunAt fireIso).id = row.id := rfl

theorem ScheduleRow.setNextRunAt_id {row : ScheduleRow} {nextRunAt : Option Datetime} :
    (row.setNextRunAt nextRunAt).id = row.id := rfl

/-- A value whose offset from UTC is known. -/
structure AwareDatetime where
  value : Datetime
  offset : ℤ
  aware : value.utcoffset = some offset

namespace AwareDatetime

/-- Microseconds on the UTC clock. -/
def instant (d : AwareDatetime) : ℤ := d.value.micros - d.offset

/-- `astimezone(UTC)`; nothing when the value leaves the calendar. -/
def astimezoneUtc (d : AwareDatetime) : Option Datetime :=
  ({ d.value with utcoffset := some 0 } : Datetime).plus (-d.offset)

/-- `astimezone(UTC).isoformat()` of a fire time. -/
def fireIso (d : AwareDatetime) : Option String := d.astimezoneUtc.map Datetime.text

end AwareDatetime

inductive ScheduleFailure where
  | overflowError
  | integrityError
  deriving DecidableEq

structure ScheduleStore where
  profiles : List String
  schedules : KeyedTable ScheduleRow.id

namespace ScheduleStore

/-- Row-preserving upsert that omits `last_run_at` from the conflict update. -/
def saveSchedule (s : ScheduleStore) (schedule : TestSchedule) :
    Except ScheduleFailure ScheduleStore :=
  if schedule.profileId ∈ s.profiles then
    .ok ⟨s.profiles, s.schedules.upsert schedule.row schedule.row.mergeExcluded
      fun _ => ScheduleRow.mergeExcluded_id⟩
  else .error .integrityError

/-- `id = ? AND (last_run_at IS NULL OR last_run_at < ?)`, less the test of the id. -/
def unclaimed (fireIso : String) (row : ScheduleRow) : Bool := row.lastRunAt.all (· < fireIso)

/-- Atomically claim a cron fire for leader election across replicas; true for the winner. -/
def claimScheduleRun (s : ScheduleStore) (scheduleId : String) (fireTime : AwareDatetime) :
    Except ScheduleFailure (Bool × ScheduleStore) :=
  match fireTime.fireIso with
  | none => .error .overflowError
  | some fireIso =>
    let claims := fun row : ScheduleRow => decide (row.id = scheduleId) && unclaimed fireIso row
    .ok (s.schedules.rowcount claims = 1, ⟨s.profiles,
      s.schedules.update claims (·.setLastRunAt fireIso) fun _ => ScheduleRow.setLastRunAt_id⟩)

/-- Narrow update of the next run; of a missing row it is a no-op. -/
def updateScheduleNextRun (s : ScheduleStore) (scheduleId : String) (nextRunAt : Option Datetime) :
    ScheduleStore :=
  ⟨s.profiles, s.schedules.update (fun row => row.id = scheduleId) (·.setNextRunAt nextRunAt)
    fun _ => ScheduleRow.setNextRunAt_id⟩

end ScheduleStore

/-- The store that the replicas share, and the successful claims so far, the last one last. -/
structure ScheduleRun where
  store : ScheduleStore
  claims : List (String × AwareDatetime) := []

/-- One call of some replica reaches the store; a call that raises leaves it as it was. -/
inductive ScheduleRun.Step : ScheduleRun → ScheduleRun → Prop
  | won {r : ScheduleRun} {store : ScheduleStore} {scheduleId : String} {fireTime : AwareDatetime}
      (h : r.store.claimScheduleRun scheduleId fireTime = .ok (true, store)) :
      Step r ⟨store, r.claims ++ [(scheduleId, fireTime)]⟩
  | lost {r : ScheduleRun} {store : ScheduleStore} {scheduleId : String} {fireTime : AwareDatetime}
      (h : r.store.claimScheduleRun scheduleId fireTime = .ok (false, store)) :
      Step r { r with store := store }
  | saved {r : ScheduleRun} {store : ScheduleStore} {schedule : TestSchedule}
      (h : r.store.saveSchedule schedule = .ok store) : Step r { r with store := store }
  | planned {r : ScheduleRun} (scheduleId : String) (nextRunAt : Option Datetime) :
      Step r { r with store := r.store.updateScheduleNextRun scheduleId nextRunAt }

/-- The instants claimed of one schedule, in the order of the claims. -/
def ScheduleRun.ticks (r : ScheduleRun) (scheduleId : String) : List ℤ :=
  (r.claims.filter fun claim => claim.1 = scheduleId).map fun claim => claim.2.instant

/-- The stored column is the text that a claim of the fire time wrote. -/
def ScheduleRow.ClaimedAt (row : ScheduleRow) (fireTime : AwareDatetime) : Prop :=
  ∃ fireIso, fireTime.fireIso = some fireIso ∧ row.lastRunAt = some fireIso

variable {a b fireTime : AwareDatetime} {s t : ScheduleStore} {row : ScheduleRow}
  {scheduleId k fireIso fireIso' : String} {won : Bool} {r r' : ScheduleRun} {earlier : List ℤ}

theorem AwareDatetime.fireIso_eq_some (h : a.fireIso = some fireIso) : ∃ u : Datetime,
    (u.micros : ℤ) = a.instant ∧ u.micros ≤ Datetime.lastMicros ∧ fireIso = u.isoformatUtc := by
  obtain ⟨u, hu, rfl⟩ := Option.map_eq_some_iff.mp h
  obtain ⟨hmicros, hlast, hoffset⟩ := Datetime.plus_eq_some.mp hu
  refine ⟨u, ?_, hlast, Datetime.text_of_utc hoffset⟩
  rw [hmicros, AwareDatetime.instant]
  exact (Int.sub_eq_add_neg).symm

/-- The texts of two fire times order as their instants, whatever the offsets. -/
theorem AwareDatetime.fireIso_lt_iff (ha : a.fireIso = some fireIso)
    (hb : b.fireIso = some fireIso') : fireIso < fireIso' ↔ a.instant < b.instant := by
  obtain ⟨u, hu, hlast, rfl⟩ := fireIso_eq_some ha
  obtain ⟨v, hv, hlast', rfl⟩ := fireIso_eq_some hb
  have htext := Datetime.isoformatUtc_lt_iff hlast hlast'
  constructor
  · intro hlt
    have := htext.mp hlt
    omega
  · intro hlt
    apply htext.mpr
    omega

namespace ScheduleStore

/-- A claim is won when the row is there and unclaimed at the fire time; it then shows the claim,
and no other row changes. -/
theorem claimScheduleRun_eq_ok (h : s.claimScheduleRun scheduleId fireTime = .ok (won, t)) :
    ∃ fireIso, fireTime.fireIso = some fireIso ∧
      won = (s.schedules.get scheduleId).any (unclaimed fireIso) ∧
      ∀ k, t.schedules.get k = (s.schedules.get k).map fun row =>
        if row.id = scheduleId ∧ unclaimed fireIso row then row.setLastRunAt fireIso else row := by
  unfold claimScheduleRun at h
  cases hiso : fireTime.fireIso with
  | none =>
    rw [hiso] at h
    cases h
  | some fireIso =>
    rw [hiso] at h
    cases h
    refine ⟨fireIso, rfl, ?_, ?_⟩
    · rw [KeyedTable.rowcount_key]
      cases (s.schedules.get scheduleId).any (unclaimed fireIso) <;> rfl
    · intro k
      rw [KeyedTable.get_update]
      simp only [Bool.and_eq_true, decide_eq_true_eq]

/-- Saving over a stored row leaves the column that claims own. -/
theorem lastRunAt_saveSchedule {schedule : TestSchedule} (h : s.saveSchedule schedule = .ok t)
    (hrow : s.schedules.get k = some row) :
    ∃ row', t.schedules.get k = some row' ∧ row'.lastRunAt = row.lastRunAt := by
  unfold saveSchedule at h
  split at h
  · cases h
    by_cases hk : k = schedule.row.id
    · subst hk
      exact ⟨schedule.row.mergeExcluded row, by rw [KeyedTable.get_upsert_self, hrow]; rfl, rfl⟩
    · exact ⟨row, by rw [KeyedTable.get_upsert_of_ne _ hk, hrow], rfl⟩
  · cases h

theorem lastRunAt_updateScheduleNextRun {nextRunAt : Option Datetime}
    (hrow : s.schedules.get k = some row) :
    ∃ row', (s.updateScheduleNextRun scheduleId nextRunAt).schedules.get k = some row' ∧
      row'.lastRunAt = row.lastRunAt := by
  refine ⟨if row.id = scheduleId then row.setNextRunAt nextRunAt else row, ?_, ?_⟩
  · rw [updateScheduleNextRun, KeyedTable.get_update, hrow]
    simp
  · split <;> rfl

end ScheduleStore

/-- The ticks of a schedule go up, and its row shows the last of them. -/
structure ScheduleRun.Ordered (earlier : List ℤ) (scheduleId : String) (r : ScheduleRun) :
    Prop where
  increasing : (earlier ++ r.ticks scheduleId).Pairwise (· < ·)
  shown : ∃ row, r.store.schedules.get scheduleId = some row ∧
    (row.lastRunAt = none ∧ earlier ++ r.ticks scheduleId = [] ∨ ∃ fireTime,
      row.ClaimedAt fireTime ∧ ∀ tick ∈ earlier ++ r.ticks scheduleId, tick ≤ fireTime.instant)

namespace ScheduleRun

theorem ticks_won {store : ScheduleStore} :
    ticks ⟨store, r.claims ++ [(scheduleId, fireTime)]⟩ k =
      if scheduleId = k then r.ticks k ++ [fireTime.instant] else r.ticks k := by
  unfold ticks
  rw [List.filter_append, List.map_append]
  by_cases hk : scheduleId = k <;> simp [hk]

/-- A step that leaves the column of the schedule and its ticks. -/
theorem Ordered.of_same (h : r.Ordered earlier k) (hticks : r'.ticks k = r.ticks k)
    (hsame : ∀ row, r.store.schedules.get k = some row →
      ∃ row', r'.store.schedules.get k = some row' ∧ row'.lastRunAt = row.lastRunAt) :
    r'.Ordered earlier k := by
  obtain ⟨row, hrow, hshown⟩ := h.shown
  obtain ⟨row', hrow', hlast⟩ := hsame row hrow
  refine ⟨hticks ▸ h.increasing, row', hrow', ?_⟩
  rw [hticks, hlast]
  rcases hshown with hnone | ⟨fireTime, ⟨fireIso, hiso, hcolumn⟩, hle⟩
  · exact Or.inl hnone
  · exact Or.inr ⟨fireTime, ⟨fireIso, hiso, by rw [hlast, hcolumn]⟩, hle⟩

theorem Ordered.step (h : r.Ordered earlier k) (hs : Step r r') : r'.Ordered earlier k := by
  cases hs with
  | @won store scheduleId fireTime hwon =>
    obtain ⟨fireIso, hiso, hany, hget⟩ := ScheduleStore.claimScheduleRun_eq_ok hwon
    by_cases hk : scheduleId = k
    · subst hk
      obtain ⟨row, hrow, hshown⟩ := h.shown
      rw [hrow, Option.any_some] at hany
      have hlater : ∀ tick ∈ earlier ++ r.ticks scheduleId, tick < fireTime.instant := by
        intro tick htick
        rcases hshown with ⟨-, hnil⟩ | ⟨last, ⟨lastIso, hlast, hcolumn⟩, hle⟩
        · rw [hnil] at htick
          cases htick
        · have hlt : lastIso < fireIso := by
            simpa [ScheduleStore.unclaimed, hcolumn] using hany.symm
          have hinstant := (AwareDatetime.fireIso_lt_iff hlast hiso).mp hlt
          have := hle tick htick
          omega
      have hticks : earlier ++ ticks ⟨store, r.claims ++ [(scheduleId, fireTime)]⟩ scheduleId =
          earlier ++ r.ticks scheduleId ++ [fireTime.instant] := by
        rw [ticks_won, if_pos rfl, List.append_assoc]
      refine ⟨?_, row.setLastRunAt fireIso, ?_, Or.inr ⟨fireTime, ⟨fireIso, hiso, rfl⟩, ?_⟩⟩
      · rw [hticks, List.pairwise_append]
        refine ⟨h.increasing, List.pairwise_singleton _ _, ?_⟩
        intro tick htick last hlast
        rw [List.mem_singleton.mp hlast]
        exact hlater tick htick
      · rw [hget, hrow, Option.map_some, if_pos ⟨KeyedTable.key_of_get hrow, hany.symm⟩]
      · intro tick htick
        rw [hticks, List.mem_append, List.mem_singleton] at htick
        rcases htick with htick | rfl
        · exact Int.le_of_lt (hlater tick htick)
        · exact Int.le_refl _
    · have hticks : ticks ⟨store, r.claims ++ [(scheduleId, fireTime)]⟩ k = r.ticks k := by
        rw [ticks_won, if_neg hk]
      apply h.of_same hticks
      intro row hrow
      refine ⟨row, ?_, rfl⟩
      have hid : row.id ≠ scheduleId := by
        rw [KeyedTable.key_of_get hrow]
        exact Ne.symm hk
      rw [hget, hrow, Option.map_some, if_neg (fun hrow => hid hrow.1)]
  | @lost store scheduleId fireTime hlost =>
    obtain ⟨fireIso, -, hany, hget⟩ := ScheduleStore.claimScheduleRun_eq_ok hlost
    have hticks : ticks ⟨store, r.claims⟩ k = r.ticks k := rfl
    apply h.of_same hticks
    intro row hrow
    refine ⟨row, ?_, rfl⟩
    rw [hget, hrow, Option.map_some, if_neg]
    rintro ⟨hid, hfree⟩
    have hk : scheduleId = k := hid.symm.trans (KeyedTable.key_of_get hrow)
    rw [hk, hrow, Option.any_some, hfree] at hany
    cases hany
  | saved hsaved =>
    exact h.of_same rfl fun row hrow => ScheduleStore.lastRunAt_saveSchedule hsaved hrow
  | planned scheduleId nextRunAt =>
    exact h.of_same rfl fun row hrow => ScheduleStore.lastRunAt_updateScheduleNextRun hrow

theorem ordered_initial (hrow : s.schedules.get k = some row) (hnone : row.lastRunAt = none) :
    Ordered [] k ⟨s, []⟩ :=
  ⟨List.Pairwise.nil, row, hrow, Or.inl ⟨hnone, rfl⟩⟩

/-- The tick that the row already shows comes before all that follow. -/
theorem ordered_claimed (hrow : s.schedules.get k = some row) (hclaimed : row.ClaimedAt fireTime) :
    Ordered [fireTime.instant] k ⟨s, []⟩ := by
  refine ⟨List.pairwise_singleton _ _, row, hrow, Or.inr ⟨fireTime, hclaimed, ?_⟩⟩
  intro tick htick
  rw [List.mem_singleton.mp htick]

theorem Ordered.after (h : Ordered earlier k ⟨s, []⟩) (hrun : ReflTransGen Step ⟨s, []⟩ r) :
    r.Ordered earlier k :=
  Steps.invariant hrun (fun _ _ hordered hstep => hordered.step hstep) h

end ScheduleRun

/-- Whatever the replicas call and in whatever order, the ticks claimed of a schedule are later and
later, and later than a tick claimed before: the texts that decide order as the instants. -/
theorem tick_claimed_once (hrow : s.schedules.get scheduleId = some row)
    (hstored : row.lastRunAt = none ∨ ∃ fireTime, row.ClaimedAt fireTime)
    (hrun : ReflTransGen ScheduleRun.Step ⟨s, []⟩ r) :
    (r.ticks scheduleId).Pairwise (· < ·) ∧
      (∀ fireTime, row.ClaimedAt fireTime → ∀ tick ∈ r.ticks scheduleId, fireTime.instant < tick) ∧
      ∀ (a b : AwareDatetime) (aIso bIso : String), a.fireIso = some aIso → b.fireIso = some bIso →
        (aIso < bIso ↔ a.instant < b.instant) := by
  refine ⟨?_, ?_, ?_⟩
  · rcases hstored with hnone | ⟨fireTime, hclaimed⟩
    · exact ((ScheduleRun.ordered_initial hrow hnone).after hrun).increasing
    · have hordered := ((ScheduleRun.ordered_claimed hrow hclaimed).after hrun).increasing
      exact (List.pairwise_append.mp hordered).2.1
  · intro fireTime hclaimed tick htick
    have hordered := ((ScheduleRun.ordered_claimed hrow hclaimed).after hrun).increasing
    exact (List.pairwise_append.mp hordered).2.2 _ (List.mem_singleton.mpr rfl) _ htick
  · intro a b aIso bIso ha hb
    exact AwareDatetime.fireIso_lt_iff ha hb

def nightly : TestSchedule where
  id := "nightly"
  name := "Nightly"
  profileId := "profile-1"
  cronExpression := "0 2 * * *"
  createdBy := "admin"
  createdAt := ⟨63082281600000000, some 0⟩

def nightlyStore (lastRunAt : Option String) : ScheduleStore where
  profiles := ["profile-1"]
  schedules := ⟨[{ nightly.row with lastRunAt := lastRunAt }], List.nodup_singleton _⟩

/-- Two in the morning at two hours east of Greenwich, some microseconds past the hour. -/
def nightlyTick (micros : ℕ) : AwareDatetime :=
  ⟨⟨63082288800000000 + micros, some 7200000000⟩, 7200000000, rfl⟩

/-- Two ticks a microsecond apart, with a stale snapshot saved between the claims. -/
def nightlyRun : ScheduleRun where
  store := nightlyStore (some "2000-01-01T00:00:00.000001+00:00")
  claims := [("nightly", nightlyTick 0), ("nightly", nightlyTick 1)]

theorem nightly_run : ReflTransGen ScheduleRun.Step ⟨nightlyStore none, []⟩ nightlyRun := by
  have hfirst : ScheduleRun.Step ⟨nightlyStore none, []⟩
      ⟨nightlyStore (some "2000-01-01T00:00:00+00:00"), [("nightly", nightlyTick 0)]⟩ := .won rfl
  have hsaved : ScheduleRun.Step
      ⟨nightlyStore (some "2000-01-01T00:00:00+00:00"), [("nightly", nightlyTick 0)]⟩
      ⟨nightlyStore (some "2000-01-01T00:00:00+00:00"), [("nightly", nightlyTick 0)]⟩ :=
    @ScheduleRun.Step.saved _ _ nightly rfl
  have hsecond : ScheduleRun.Step
      ⟨nightlyStore (some "2000-01-01T00:00:00+00:00"), [("nightly", nightlyTick 0)]⟩ nightlyRun :=
    .won rfl
  exact .tail (.tail (.single hfirst) hsaved) hsecond

theorem tick_claimed_once_nightly : (nightlyRun.ticks "nightly").Pairwise (· < ·) :=
  (tick_claimed_once rfl (Or.inl rfl) nightly_run).1

end QaRunner
