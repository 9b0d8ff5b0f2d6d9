import QaRunner.Lib.OrderedDict
import Mathlib.Algebra.Order.Ring.Rat
import Mathlib.Data.Rat.Floor
import Mathlib.Tactic.Linarith
import Mathlib.Tactic.NormNum
import Mathlib.Tactic.Positivity

/-! The login throttle over runs of calls: what each identity has coming, and when the throttle
gives it that. -/
namespace QaRunner.Core

/-- Per-identity counters; `lockedUntil` is in epoch seconds, `0` for an unlocked identity. -/
structure LoginAttempt where
  failures : ℕ := 0
  lockouts : ℕ := 0
  lockedUntil : ℚ := 0
  deriving DecidableEq

/-- The fields of the throttle that never change. -/
structure LoginThrottle where
  threshold : ℤ := 5
  baseSeconds : ℚ := 60
  maxSeconds : ℚ := 900
  maxIdentities : ℤ := 10000

abbrev LoginAttempts := OrderedDict String LoginAttempt

inductive LoginAnswer where
  | returned
  | lockedOut (retryAfter : ℤ)
  /-- An integer is too large to become a float. -/
  | overflowError
  /-- Nothing to evict. -/
  | keyError
  deriving DecidableEq

inductive LoginOp where
  | check
  | recordFailure
  | recordSuccess
  deriving DecidableEq

structure LoginCall where
  op : LoginOp
  key : String
  now : ℚ

/-- A float times an integer, which becomes a float first: it must be below the midpoint between
the largest float and the next power of two. -/
def floatTimes (x : ℚ) (n : ℕ) : Option ℚ :=
  if n < 2 ^ 1024 - 2 ^ 970 then some (x * n) else none

namespace LoginThrottle

def check (attempts : LoginAttempts) (key : String) (now : ℚ) : LoginAnswer × LoginAttempts :=
  match attempts.lookup key with
  | none => (.returned, attempts)
  | some attempt =>
    let attempts := attempts.moveToEnd key
    if attempt.lockedUntil = 0 then (.returned, attempts)
    else
      let remaining := attempt.lockedUntil - now
      if 0 < remaining then (.lockedOut (max 1 ⌈remaining⌉), attempts)
      else (.returned, attempts.put key { attempt with lockedUntil := 0, failures := 0 })

/-- The first identity that is not locked, else the oldest one. -/
def evictOne (attempts : LoginAttempts) (now : ℚ) : Option LoginAttempts :=
  match attempts.rows.find? fun row => row.2.lockedUntil ≤ now with
  | some victim => some (attempts.pop victim.1)
  | none =>
    match attempts.rows with
    | [] => none
    | _ :: _ => some attempts.popFirst

/-- The second half of `record_failure`, for an identity that is in the dictionary. -/
def countFailure (t : LoginThrottle) (attempts : LoginAttempts) (key : String) (now : ℚ)
    (attempt : LoginAttempt) : LoginAnswer × LoginAttempts :=
  let attempt := { attempt with failures := attempt.failures + 1 }
  if 0 < t.threshold ∧ t.threshold ≤ attempt.failures then
    match floatTimes t.baseSeconds (2 ^ attempt.lockouts) with
    | none => (.overflowError, attempts.put key attempt)
    | some seconds =>
      let window := min seconds t.maxSeconds
      (.returned, attempts.put key
        { failures := 0, lockouts := attempt.lockouts + 1, lockedUntil := now + window })
  else (.returned, attempts.put key attempt)

def recordFailure (t : LoginThrottle) (attempts : LoginAttempts) (key : String) (now : ℚ) :
    LoginAnswer × LoginAttempts :=
  match attempts.lookup key with
  | some attempt => t.countFailure (attempts.moveToEnd key) key now attempt
  | none =>
    if t.maxIdentities ≤ attempts.size then
      match evictOne attempts now with
      | none => (.keyError, attempts)
      | some attempts => t.countFailure (attempts.put key {}) key now {}
    else t.countFailure (attempts.put key {}) key now {}

def recordSuccess (attempts : LoginAttempts) (key : String) : LoginAnswer × LoginAttempts :=
  (.returned, attempts.pop key)

def perform (t : LoginThrottle) (attempts : LoginAttempts) (call : LoginCall) :
    LoginAnswer × LoginAttempts :=
  match call.op with
  | .check => check attempts call.key call.now
  | .recordFailure => t.recordFailure attempts call.key call.now
  | .recordSuccess => recordSuccess attempts call.key

def step (t : LoginThrottle) (attempts : LoginAttempts) (call : LoginCall) : LoginAttempts :=
  (t.perform attempts call).2

def run (t : LoginThrottle) (attempts : LoginAttempts) (calls : List LoginCall) : LoginAttempts :=
  calls.foldl t.step attempts

/-- How long a lock lasts after so many earlier ones. -/
def lockSeconds (t : LoginThrottle) (lockouts : ℕ) : ℚ :=
  min (t.baseSeconds * 2 ^ lockouts) t.maxSeconds

/-- What an identity has coming: its failures since its last success, lock, expiry or eviction,
its lockouts since it was last cleared or evicted, and when its lock ends. -/
structure Tally where
  failures : ℕ := 0
  lockouts : ℕ := 0
  lock : Option ℚ := none

/-- The tally of the call's own identity. A lock expires when a check finds it elapsed. -/
def ownTally (t : LoginThrottle) (tally : Tally) (call : LoginCall) : Tally :=
  match call.op with
  | .check =>
    if tally.lock.any (· ≤ call.now) then { tally with failures := 0, lock := none } else tally
  | .recordFailure =>
    if t.threshold ≤ tally.failures + 1 then
      { failures := 0
        lockouts := tally.lockouts + 1
        lock := some (call.now + t.lockSeconds tally.lockouts) }
    else { tally with failures := tally.failures + 1 }
  | .recordSuccess => {}

/-- Another identity keeps its tally unless it is evicted. -/
def nextTally (t : LoginThrottle) (key : String) (attempts : LoginAttempts) (tally : Tally)
    (call : LoginCall) : Tally :=
  if call.key = key then t.ownTally tally call
  else if ((t.step attempts call).lookup key).isNone then {}
  else tally

/-- The tally of an identity after a run. -/
def tallyOf (t : LoginThrottle) (key : String) : LoginAttempts → Tally → List LoginCall → Tally
  | _, tally, [] => tally
  | attempts, tally, call :: calls =>
    t.tallyOf key (t.step attempts call) (t.nextTally key attempts tally call) calls

/-- What every call owes, where each identity's tally is what the calls before it left. -/
structure Enforced (t : LoginThrottle) (attempts : LoginAttempts) (tally : String → Tally)
    (call : LoginCall) : Prop where
  answers : (t.perform attempts call).1 = .returned ∨
    ∃ r, (t.perform attempts call).1 = .lockedOut r
  /-- The failure that reaches the threshold locks the identity for as long as its lockouts say. -/
  locks : call.op = .recordFailure → t.threshold ≤ (tally call.key).failures + 1 →
    ∃ attempt, (t.step attempts call).lookup call.key = some attempt ∧
      attempt.lockedUntil = call.now + t.lockSeconds (tally call.key).lockouts
  /-- A check is refused until the lock in force ends, and only until then. -/
  refuses : call.op = .check → ((∃ r, (t.perform attempts call).1 = .lockedOut r) ↔
    ∃ ends, (tally call.key).lock = some ends ∧ call.now < ends)
  /-- A locked identity makes room only when all of them are locked. -/
  evicts : ∀ key attempt, key ≠ call.key → attempts.lookup key = some attempt →
    call.now < attempt.lockedUntil → (t.step attempts call).lookup key = none →
    ∀ row ∈ attempts.rows, call.now < row.2.lockedUntil

/-- Every call of the run gives what it owes. -/
def Enforces (t : LoginThrottle) (calls : List LoginCall) : Prop :=
  ∀ pre call post, calls = pre ++ call :: post →
    Enforced t (t.run .empty pre) (fun key => t.tallyOf key .empty {} pre) call

/-- No failure that reaches the threshold finds its identity with `1024` lockouts. -/
def FewLockouts (t : LoginThrottle) (calls : List LoginCall) : Prop :=
  ∀ pre call post attempt, calls = pre ++ call :: post → call.op = .recordFailure →
    (t.run .empty pre).lookup call.key = some attempt →
    t.threshold ≤ attempt.failures + 1 → attempt.lockouts < 1024

variable {t : LoginThrottle} {attempts after : LoginAttempts} {key j : String} {now x : ℚ} {k : ℕ}
  {attempt : LoginAttempt} {tally : Tally} {call : LoginCall} {calls : List LoginCall}

/-- The counters of an identity, new ones when it is not in the dictionary. -/
def own (attempts : LoginAttempts) (key : String) : LoginAttempt := (attempts.lookup key).getD {}

/-- The counters that a tally amounts to. -/
def Tally.counters (tally : Tally) : LoginAttempt :=
  ⟨tally.failures, tally.lockouts, tally.lock.getD 0⟩

/-- The dictionary holds what the tally says; every lock ends after the epoch. -/
def Agrees (attempts : LoginAttempts) (key : String) (tally : Tally) : Prop :=
  own attempts key = tally.counters ∧ ∀ ends, tally.lock = some ends → 0 < ends

theorem own_of_some (h : attempts.lookup key = some attempt) : own attempts key = attempt := by
  rw [own, h]
  rfl

theorem own_of_none (h : attempts.lookup key = none) : own attempts key = {} := by
  rw [own, h]
  rfl

theorem pow_lt_floats : 2 ^ k < 2 ^ 1024 - 2 ^ 970 ↔ k < 1024 := by
  have hnext : 1024 = 1023 + 1 := rfl
  have hdouble : (2 : ℕ) ^ 1024 = 2 ^ 1023 * 2 := by rw [hnext, pow_succ]
  have hsmall : (2 : ℕ) ^ 970 < 2 ^ 1023 := pow_lt_pow_right₀ one_lt_two (by norm_num)
  have hmono : k < 1024 → 2 ^ k ≤ 2 ^ 1023 := fun hk =>
    pow_le_pow_right₀ one_le_two (Nat.le_of_lt_succ hk)
  have hlarge : ¬ k < 1024 → 2 ^ 1024 ≤ 2 ^ k := fun hk =>
    pow_le_pow_right₀ one_le_two (not_lt.mp hk)
  generalize (2 : ℕ) ^ 1024 = top at *
  generalize (2 : ℕ) ^ 1023 = half at *
  generalize (2 : ℕ) ^ 970 = gap at *
  by_cases hk : k < 1024
  · have := hmono hk
    omega
  · have := hlarge hk
    omega

/-- Doubling stays within the floats for `1024` steps. -/
theorem floatTimes_pow : floatTimes x (2 ^ k) = if k < 1024 then some (x * 2 ^ k) else none := by
  unfold floatTimes
  simp only [pow_lt_floats, Nat.cast_pow, Nat.cast_ofNat]

/-- What a failure does to the counters of its identity. -/
inductive FailureEffect (t : LoginThrottle) (attempts : LoginAttempts) (key : String) (now : ℚ) :
    LoginAnswer × LoginAttempts → Prop
  | counted {after : LoginAttempts} (hbelow : ¬ t.threshold ≤ (own attempts key).failures + 1)
      (hafter : after.lookup key =
        some { own attempts key with failures := (own attempts key).failures + 1 }) :
      FailureEffect t attempts key now (.returned, after)
  | locked {after : LoginAttempts} (hreached : t.threshold ≤ (own attempts key).failures + 1)
      (hfew : (own attempts key).lockouts < 1024)
      (hafter : after.lookup key = some ⟨0, (own attempts key).lockouts + 1,
        now + t.lockSeconds (own attempts key).lockouts⟩) :
      FailureEffect t attempts key now (.returned, after)
  | overflowed {after : LoginAttempts} (hreached : t.threshold ≤ (own attempts key).failures + 1)
      (hmany : ¬ (own attempts key).lockouts < 1024) :
      FailureEffect t attempts key now (.overflowError, after)

theorem failureEffect_countFailure {inner : LoginAttempts} (hthreshold : 1 ≤ t.threshold)
    (hown : own attempts key = attempt) :
    FailureEffect t attempts key now (t.countFailure inner key now attempt) := by
  subst hown
  unfold countFailure
  dsimp only
  rw [floatTimes_pow, Nat.cast_add, Nat.cast_one]
  by_cases hreached : t.threshold ≤ (own attempts key).failures + 1
  · rw [if_pos ⟨by omega, hreached⟩]
    by_cases hfew : (own attempts key).lockouts < 1024
    · rw [if_pos hfew]
      exact .locked hreached hfew OrderedDict.lookup_put_self
    · rw [if_neg hfew]
      exact .overflowed hreached hfew
  · rw [if_neg fun hboth => hreached hboth.2]
    exact .counted hreached OrderedDict.lookup_put_self

/-- A full dictionary is not empty, so there is something to evict. -/
theorem evictOne_isSome (now : ℚ) (hids : 1 ≤ t.maxIdentities)
    (hfull : t.maxIdentities ≤ attempts.size) :
    ∃ after, evictOne attempts now = some after := by
  unfold evictOne
  split
  · exact ⟨_, rfl⟩
  · cases hrows : attempts.rows with
    | nil =>
      rw [OrderedDict.size, hrows] at hfull
      simp only [List.length_nil] at hfull
      omega
    | cons row rows => exact ⟨_, rfl⟩

theorem failureEffect (attempts : LoginAttempts) (key : String) (now : ℚ)
    (hthreshold : 1 ≤ t.threshold) (hids : 1 ≤ t.maxIdentities) :
    FailureEffect t attempts key now (t.recordFailure attempts key now) := by
  unfold recordFailure
  cases hlookup : attempts.lookup key with
  | some attempt => exact failureEffect_countFailure hthreshold (own_of_some hlookup)
  | none =>
    dsimp only
    split
    · next hfull =>
      obtain ⟨after, hafter⟩ := evictOne_isSome now hids hfull
      rw [hafter]
      exact failureEffect_countFailure hthreshold (own_of_none hlookup)
    · exact failureEffect_countFailure hthreshold (own_of_none hlookup)

theorem lookup_countFailure_of_ne (h : j ≠ key) :
    (t.countFailure attempts key now attempt).2.lookup j = attempts.lookup j := by
  unfold countFailure
  dsimp only
  split
  · split <;> exact OrderedDict.lookup_put_of_ne h
  · exact OrderedDict.lookup_put_of_ne h

/-- An eviction forgets one identity, a locked one only when all are locked. -/
theorem lookup_evictOne (h : evictOne attempts now = some after) :
    after.lookup j = attempts.lookup j ∨ (after.lookup j = none ∧ ∀ attempt,
      attempts.lookup j = some attempt → now < attempt.lockedUntil →
        ∀ row ∈ attempts.rows, now < row.2.lockedUntil) := by
  unfold evictOne at h
  cases hfind : attempts.rows.find? fun row => row.2.lockedUntil ≤ now with
  | some victim =>
    rw [hfind] at h
    cases h
    by_cases hj : j = victim.1
    · subst hj
      refine Or.inr ⟨OrderedDict.lookup_pop_self, fun attempt hlookup hlocked => ?_⟩
      have hvictim : attempts.lookup victim.1 = some victim.2 :=
        OrderedDict.lookup_eq_some.mpr (List.mem_of_find?_eq_some hfind)
      rw [hvictim] at hlookup
      cases hlookup
      exact absurd hlocked (not_lt_of_ge (by simpa using List.find?_some hfind))
    · exact Or.inl (OrderedDict.lookup_pop_of_ne hj)
  | none =>
    rw [hfind] at h
    cases hrows : attempts.rows with
    | nil =>
      rw [hrows] at h
      cases h
    | cons row rows =>
      rw [hrows] at h
      cases h
      rw [OrderedDict.lookup_popFirst]
      split
      · refine Or.inr ⟨rfl, fun _ _ _ => ?_⟩
        rw [← hrows]
        simpa using List.find?_eq_none.mp hfind
      · exact Or.inl rfl

/-- Another identity's failure changes nothing, unless it evicts. -/
theorem lookup_recordFailure_of_ne (h : j ≠ key) :
    (t.recordFailure attempts key now).2.lookup j = attempts.lookup j ∨
      ((t.recordFailure attempts key now).2.lookup j = none ∧ ∀ attempt,
        attempts.lookup j = some attempt → now < attempt.lockedUntil →
          ∀ row ∈ attempts.rows, now < row.2.lockedUntil) := by
  unfold recordFailure
  split
  · rw [lookup_countFailure_of_ne h, OrderedDict.lookup_moveToEnd]
    exact Or.inl rfl
  · split
    · cases hevict : evictOne attempts now with
      | none => exact Or.inl rfl
      | some after =>
        dsimp only
        rw [lookup_countFailure_of_ne h, OrderedDict.lookup_put_of_ne h]
        exact lookup_evictOne hevict
    · rw [lookup_countFailure_of_ne h, OrderedDict.lookup_put_of_ne h]
      exact Or.inl rfl

theorem lookup_check_of_ne (h : j ≠ key) :
    (check attempts key now).2.lookup j = attempts.lookup j := by
  unfold check
  split
  · rfl
  · dsimp only
    split
    · exact OrderedDict.lookup_moveToEnd
    · split
      · exact OrderedDict.lookup_moveToEnd
      · rw [OrderedDict.lookup_put_of_ne h, OrderedDict.lookup_moveToEnd]

/-- Another identity's call changes nothing, unless it evicts. -/
theorem lookup_step_of_ne (t : LoginThrottle) (attempts : LoginAttempts) (h : j ≠ call.key) :
    (t.step attempts call).lookup j = attempts.lookup j ∨
      ((t.step attempts call).lookup j = none ∧ ∀ attempt, attempts.lookup j = some attempt →
        call.now < attempt.lockedUntil → ∀ row ∈ attempts.rows, call.now < row.2.lockedUntil) := by
  unfold step perform
  cases call.op with
  | check => exact Or.inl (lookup_check_of_ne h)
  | recordFailure => exact lookup_recordFailure_of_ne h
  | recordSuccess => exact Or.inl (OrderedDict.lookup_pop_of_ne h)

theorem Agrees.lookup_congr {attempts' : LoginAttempts} (h : Agrees attempts key tally)
    (hlookup : attempts'.lookup key = attempts.lookup key) : Agrees attempts' key tally := by
  rw [Agrees, own, hlookup]
  exact h

theorem agrees_of_none (h : attempts.lookup key = none) : Agrees attempts key {} := by
  rw [Agrees, own_of_none h]
  exact ⟨rfl, fun _ hlock => nomatch hlock⟩

/-- An identity that is not in the dictionary has nothing coming. -/
theorem Agrees.lock_none (h : Agrees attempts key tally) (hnone : attempts.lookup key = none) :
    tally = {} := by
  obtain ⟨failures, lockouts, lock⟩ := tally
  rw [Agrees, own_of_none hnone, Tally.counters] at h
  injection h.1 with hfailures hlockouts hlock
  cases lock with
  | none =>
    dsimp only at hfailures hlockouts
    rw [← hfailures, ← hlockouts]
  | some ends =>
    have hpos := h.2 ends rfl
    rw [Option.getD_some] at hlock
    rw [← hlock] at hpos
    exact absurd hpos (lt_irrefl 0)

/-- What a check answers and does, in terms of the tally. -/
theorem check_of_agrees (t : LoginThrottle) (now : ℚ) (h : Agrees attempts key tally) :
    ((∃ r, (check attempts key now).1 = .lockedOut r) ↔
      ∃ ends, tally.lock = some ends ∧ now < ends) ∧
    ((check attempts key now).1 = .returned ∨ ∃ r, (check attempts key now).1 = .lockedOut r) ∧
    Agrees (check attempts key now).2 key (t.ownTally tally ⟨.check, key, now⟩) := by
  unfold check ownTally
  cases hlookup : attempts.lookup key with
  | none =>
    have hempty := h.lock_none hlookup
    subst hempty
    exact ⟨by simp, Or.inl rfl, h⟩
  | some attempt =>
    have hcounters := h.1
    rw [own_of_some hlookup] at hcounters
    subst hcounters
    have hsame : Agrees (attempts.moveToEnd key) key tally :=
      h.lookup_congr OrderedDict.lookup_moveToEnd
    dsimp only [Tally.counters]
    cases hlock : tally.lock with
    | none => exact ⟨by simp, Or.inl rfl, hsame⟩
    | some ends =>
      have hpos := h.2 ends hlock
      rw [Option.getD_some, if_neg hpos.ne', Option.any_some]
      by_cases hnow : now < ends
      · rw [if_pos (sub_pos.mpr hnow), if_neg (by simpa using hnow)]
        exact ⟨by simp [hnow], Or.inr ⟨_, rfl⟩, hsame⟩
      · rw [if_neg (by simpa using hnow), if_pos (by simpa using hnow)]
        refine ⟨by simpa using hnow, Or.inl rfl, ?_, fun _ hnone => nomatch hnone⟩
        rw [own_of_some OrderedDict.lookup_put_self]
        rfl

/-- The effect of a failure while lockouts are few, in terms of the tally. -/
theorem recordFailure_of_agrees (hthreshold : 1 ≤ t.threshold) (hids : 1 ≤ t.maxIdentities)
    (hbase : 0 < t.baseSeconds) (hmax : 0 < t.maxSeconds) (hnow : 0 < now)
    (h : Agrees attempts key tally)
    (hfew : t.threshold ≤ tally.failures + 1 → tally.lockouts < 1024) :
    (t.recordFailure attempts key now).1 = .returned ∧
    (t.threshold ≤ tally.failures + 1 → ∃ attempt,
      (t.recordFailure attempts key now).2.lookup key = some attempt ∧
        attempt.lockedUntil = now + t.lockSeconds tally.lockouts) ∧
    Agrees (t.recordFailure attempts key now).2 key
      (t.ownTally tally ⟨.recordFailure, key, now⟩) := by
  have heffect := failureEffect attempts key now hthreshold hids
  unfold ownTally
  generalize t.recordFailure attempts key now = result at heffect ⊢
  have hcounters := h.1
  cases heffect with
  | counted hbelow hafter =>
    rw [hcounters] at hbelow hafter
    dsimp only [Tally.counters] at hbelow
    rw [if_neg hbelow]
    refine ⟨rfl, fun hreached => absurd hreached hbelow, ?_, h.2⟩
    rw [own_of_some hafter]
    rfl
  | locked hreached _ hafter =>
    rw [hcounters] at hreached hafter
    dsimp only [Tally.counters] at hreached hafter
    rw [if_pos hreached]
    refine ⟨rfl, fun _ => ⟨_, hafter, rfl⟩, ?_, ?_⟩
    · rw [own_of_some hafter]
      rfl
    · rintro ends ⟨⟩
      have hwindow : 0 < t.lockSeconds tally.lockouts := lt_min (by positivity) hmax
      exact add_pos hnow hwindow
  | overflowed hreached hmany =>
    rw [hcounters] at hreached hmany
    exact absurd (hfew hreached) hmany

/-- While lockouts are few, every call gives what it owes and keeps the tallies. -/
theorem step_enforced (hthreshold : 1 ≤ t.threshold) (hids : 1 ≤ t.maxIdentities)
    (hbase : 0 < t.baseSeconds) (hmax : 0 < t.maxSeconds) (hnow : 0 < call.now)
    {tallies : String → Tally} (h : ∀ key, Agrees attempts key (tallies key))
    (hfew : call.op = .recordFailure → t.threshold ≤ (tallies call.key).failures + 1 →
      (tallies call.key).lockouts < 1024) :
    Enforced t attempts tallies call ∧ ∀ key, Agrees (t.step attempts call) key
      (t.nextTally key attempts (tallies key) call) := by
  have hevicts : ∀ key attempt, key ≠ call.key → attempts.lookup key = some attempt →
      call.now < attempt.lockedUntil → (t.step attempts call).lookup key = none →
      ∀ row ∈ attempts.rows, call.now < row.2.lockedUntil := by
    intro key attempt hne hlookup hlocked hgone
    obtain hsame | ⟨_, hall⟩ := lookup_step_of_ne t attempts hne
    · rw [hgone, hlookup] at hsame
      cases hsame
    · exact hall attempt hlookup hlocked
  have hothers : Agrees (t.step attempts call) call.key (t.ownTally (tallies call.key) call) →
      ∀ key, Agrees (t.step attempts call) key (t.nextTally key attempts (tallies key) call) := by
    intro hown key
    unfold nextTally
    by_cases hkey : call.key = key
    · subst hkey
      rw [if_pos rfl]
      exact hown
    · rw [if_neg hkey]
      obtain hsame | ⟨hgone, _⟩ :=
        lookup_step_of_ne t attempts (Ne.symm hkey)
      · by_cases hnone : (t.step attempts call).lookup key = none
        · rw [if_pos (by rw [hnone]; rfl)]
          exact agrees_of_none hnone
        · rw [if_neg (by simpa using hnone)]
          exact (h key).lookup_congr hsame
      · rw [if_pos (by rw [hgone]; rfl)]
        exact agrees_of_none hgone
  obtain ⟨op, key, now⟩ := call
  cases op with
  | check =>
    obtain ⟨hrefuses, hanswers, hown⟩ := check_of_agrees t now (h key)
    exact ⟨⟨hanswers, fun hop => LoginOp.noConfusion hop, fun _ => hrefuses, hevicts⟩,
      hothers hown⟩
  | recordFailure =>
    obtain ⟨hanswers, hlocks, hown⟩ :=
      recordFailure_of_agrees hthreshold hids hbase hmax hnow (h key) (hfew rfl)
    exact ⟨⟨Or.inl hanswers, fun _ => hlocks, fun hop => LoginOp.noConfusion hop, hevicts⟩,
      hothers hown⟩
  | recordSuccess =>
    refine ⟨⟨Or.inl rfl, fun hop => LoginOp.noConfusion hop, fun hop => LoginOp.noConfusion hop,
      hevicts⟩, hothers ?_⟩
    exact agrees_of_none OrderedDict.lookup_pop_self

theorem run_append {mid : List LoginCall} :
    t.run attempts (calls ++ mid) = t.run (t.run attempts calls) mid := List.foldl_append

theorem tallyOf_append {mid : List LoginCall} : t.tallyOf key attempts tally (calls ++ mid) =
    t.tallyOf key (t.run attempts calls) (t.tallyOf key attempts tally calls) mid := by
  induction calls generalizing attempts tally with
  | nil => rfl
  | cons call calls ih =>
    rw [List.cons_append, tallyOf, tallyOf, ih]
    rfl

/-- Lockouts that are few in the dictionary are few in the tally. -/
theorem Agrees.few (h : Agrees attempts key tally)
    (hfew : ∀ attempt, attempts.lookup key = some attempt →
      t.threshold ≤ attempt.failures + 1 → attempt.lockouts < 1024)
    (hreached : t.threshold ≤ tally.failures + 1) : tally.lockouts < 1024 := by
  cases hlookup : attempts.lookup key with
  | none =>
    rw [h.lock_none hlookup]
    exact Nat.zero_lt_succ 1023
  | some attempt =>
    have hcounters := h.1
    rw [own_of_some hlookup] at hcounters
    subst hcounters
    exact hfew _ hlookup hreached

theorem FewLockouts.of_append {mid : List LoginCall} (h : t.FewLockouts (calls ++ mid)) :
    t.FewLockouts calls := by
  rintro pre call post attempt rfl
  exact h pre call (post ++ mid) attempt (by simp)

/-- A run of few lockouts keeps every tally. -/
theorem run_agrees (hthreshold : 1 ≤ t.threshold) (hids : 1 ≤ t.maxIdentities)
    (hbase : 0 < t.baseSeconds) (hmax : 0 < t.maxSeconds) (hepoch : ∀ call ∈ calls, 0 < call.now)
    (hfew : t.FewLockouts calls) (key : String) :
    Agrees (t.run .empty calls) key (t.tallyOf key .empty {} calls) := by
  induction calls using List.reverseRecOn generalizing key with
  | nil => exact agrees_of_none rfl
  | append_singleton calls call ih =>
    have hall := ih (fun c hc => hepoch c (List.mem_append_left _ hc)) hfew.of_append
    rw [run_append, tallyOf_append]
    refine (step_enforced hthreshold hids hbase hmax (hepoch call (by simp)) hall ?_).2 key
    intro hop hreached
    exact (hall call.key).few (fun attempt => hfew calls call [] attempt rfl hop) hreached

/-- An identity with `1024` lockouts is not locked again: the failure raises. -/
theorem overflowError_of_many (hthreshold : 1 ≤ t.threshold) (hids : 1 ≤ t.maxIdentities)
    (hop : call.op = .recordFailure) (hlookup : attempts.lookup call.key = some attempt)
    (hreached : t.threshold ≤ attempt.failures + 1) (hmany : ¬ attempt.lockouts < 1024) :
    (t.perform attempts call).1 = .overflowError := by
  have heffect := failureEffect attempts call.key call.now hthreshold hids
  unfold perform
  rw [hop]
  dsimp only
  generalize t.recordFailure attempts call.key call.now = result at heffect ⊢
  rw [← own_of_some hlookup] at hreached hmany
  cases heffect with
  | counted hbelow => exact absurd hreached hbelow
  | locked _ hfew => exact absurd hfew hmany
  | overflowed => rfl

theorem lockouts_countFailure {inner : LoginAttempts} :
    (own (t.countFailure inner key now attempt).2 key).lockouts ≤ attempt.lockouts + 1 := by
  unfold countFailure
  dsimp only
  split
  · split
    · rw [own_of_some OrderedDict.lookup_put_self]
      exact Nat.le_succ _
    · rw [own_of_some OrderedDict.lookup_put_self]
  · rw [own_of_some OrderedDict.lookup_put_self]
    exact Nat.le_succ _

theorem lockouts_check :
    (own (check attempts key now).2 key).lockouts = (own attempts key).lockouts := by
  unfold check
  cases hlookup : attempts.lookup key with
  | none => rfl
  | some attempt =>
    have hmoved : (attempts.moveToEnd key).lookup key = some attempt :=
      OrderedDict.lookup_moveToEnd.trans hlookup
    dsimp only
    rw [own_of_some hlookup]
    split
    · rw [own_of_some hmoved]
    · split
      · rw [own_of_some hmoved]
      · rw [own_of_some OrderedDict.lookup_put_self]

/-- A call locks an identity at most once more. -/
theorem lockouts_step (t : LoginThrottle) (attempts : LoginAttempts) (call : LoginCall)
    (key : String) :
    (own (t.step attempts call) key).lockouts ≤ (own attempts key).lockouts + 1 := by
  by_cases hkey : key = call.key
  · subst hkey
    unfold step perform
    cases call.op with
    | check => exact lockouts_check.trans_le (Nat.le_succ _)
    | recordFailure =>
      dsimp only
      unfold recordFailure
      split
      · next attempt hlookup =>
        rw [own_of_some hlookup]
        exact lockouts_countFailure
      · next hlookup =>
        rw [own_of_none hlookup]
        split
        · split
          · rw [own_of_none hlookup]
            exact Nat.zero_le _
          · exact lockouts_countFailure
        · exact lockouts_countFailure
    | recordSuccess =>
      dsimp only [recordSuccess]
      rw [own_of_none OrderedDict.lookup_pop_self]
      exact Nat.zero_le _
  · rcases lookup_step_of_ne t attempts hkey with hsame | ⟨hgone, -⟩
    · rw [own, hsame]
      exact Nat.le_succ _
    · rw [own_of_none hgone]
      exact Nat.zero_le _

theorem lockouts_run (t : LoginThrottle) (calls : List LoginCall) (key : String) :
    (own (t.run .empty calls) key).lockouts ≤ calls.length := by
  induction calls using List.reverseRecOn with
  | nil => exact Nat.le_refl 0
  | append_singleton calls call ih =>
    rw [run_append, List.length_append, List.length_singleton]
    exact (lockouts_step t _ call key).trans (Nat.succ_le_succ ih)

/-- A short run has few lockouts. -/
theorem fewLockouts_of_length (h : calls.length ≤ 1024) : t.FewLockouts calls := by
  rintro pre call post attempt rfl _ hlookup _
  have hlockouts := lockouts_run t pre call.key
  rw [own_of_some hlookup] at hlockouts
  rw [List.length_append, List.length_cons] at h
  omega

end LoginThrottle

open LoginThrottle

/-- Over every run, each call gives what it owes, exactly when no failure that reaches the
threshold finds its identity with `1024` lockouts. -/
theorem lockout_enforced_iff (t : LoginThrottle) (hthreshold : 1 ≤ t.threshold)
    (hbase : 0 < t.baseSeconds) (hmax : 0 < t.maxSeconds) (hids : 1 ≤ t.maxIdentities)
    (calls : List LoginCall) (hepoch : ∀ call ∈ calls, 0 < call.now) :
    t.Enforces calls ↔ t.FewLockouts calls := by
  constructor
  · intro h pre call post attempt hcalls hop hlookup hreached
    by_contra hmany
    have hraised := overflowError_of_many hthreshold hids hop hlookup hreached hmany
    obtain hreturned | ⟨r, hlocked⟩ := (h pre call post hcalls).answers
    · rw [hraised] at hreturned
      cases hreturned
    · rw [hraised] at hlocked
      cases hlocked
  · rintro h pre call post rfl
    have hpre : ∀ c ∈ pre, 0 < c.now := fun c hc => hepoch c (List.mem_append_left _ hc)
    have hall := run_agrees hthreshold hids hbase hmax hpre h.of_append
    refine (step_enforced hthreshold hids hbase hmax (hepoch call (by simp)) hall ?_).1
    intro hop hreached
    exact (hall call.key).few (fun attempt => h pre call post attempt rfl hop) hreached

def strictThrottle : LoginThrottle := { threshold := 1 }

def failedLogin : LoginCall := ⟨.recordFailure, "k", 1⟩

/-- A failure locks for a minute, which runs out; the next failure locks for two. -/
def lockedTwice : List LoginCall :=
  [failedLogin, ⟨.check, "k", 2⟩, ⟨.check, "k", 62⟩, ⟨.recordFailure, "k", 63⟩, ⟨.check, "k", 182⟩]

theorem strictThrottle_enforces : strictThrottle.Enforces lockedTwice := by
  refine (lockout_enforced_iff strictThrottle le_rfl ?_ ?_ ?_ lockedTwice ?_).mpr ?_
  · norm_num [strictThrottle]
  · norm_num [strictThrottle]
  · norm_num [strictThrottle]
  · simp [lockedTwice, failedLogin]
  · exact fewLockouts_of_length (by decide)

example : (strictThrottle.run .empty lockedTwice).lookup "k" = some ⟨0, 2, 183⟩ := by
  decide +kernel

/-- Every failure locks the identity once more, as long as the doubled window is a float. -/
theorem lockouts_replicate {n : ℕ} (hn : n ≤ 1024) :
    (own (strictThrottle.run .empty (List.replicate n failedLogin)) "k").lockouts = n := by
  induction n with
  | zero => rfl
  | succ n ih =>
    have hbefore := ih (by omega)
    rw [List.replicate_succ', run_append]
    have heffect := failureEffect (t := strictThrottle)
      (strictThrottle.run .empty (List.replicate n failedLogin)) "k" 1 le_rfl
      (by norm_num [strictThrottle])
    have hreached (attempt : LoginAttempt) : strictThrottle.threshold ≤ attempt.failures + 1 := by
      simp [strictThrottle]
    change (own (strictThrottle.recordFailure
      (strictThrottle.run .empty (List.replicate n failedLogin)) "k" 1).2 "k").lockouts = n + 1
    generalize strictThrottle.recordFailure _ "k" 1 = result at heffect ⊢
    cases heffect with
    | counted hbelow => exact absurd (hreached _) hbelow
    | locked _ _ hafter =>
      rw [own_of_some hafter]
      exact congrArg Nat.succ hbefore
    | overflowed _ hmany =>
      rw [hbefore] at hmany
      omega

/-- The `1025`th failure raises instead of locking. -/
theorem lockout_wears_out :
    (strictThrottle.perform (strictThrottle.run .empty (List.replicate 1024 failedLogin))
      failedLogin).1 = .overflowError ∧
    ¬ strictThrottle.Enforces (List.replicate 1025 failedLogin) := by
  have hlockouts := lockouts_replicate le_rfl
  have hraised : (strictThrottle.perform
      (strictThrottle.run .empty (List.replicate 1024 failedLogin)) failedLogin).1 =
        .overflowError := by
    cases hlookup : (strictThrottle.run .empty (List.replicate 1024 failedLogin)).lookup "k" with
    | none =>
      rw [own_of_none hlookup] at hlockouts
      cases hlockouts
    | some attempt =>
      rw [own_of_some hlookup] at hlockouts
      exact overflowError_of_many le_rfl (by norm_num [strictThrottle]) rfl hlookup
        (by simp [strictThrottle]) (by omega)
  refine ⟨hraised, fun h => ?_⟩
  have hlast := (h (List.replicate 1024 failedLogin) failedLogin [] List.replicate_succ').answers
  rw [hraised] at hlast
  obtain hlast | ⟨r, hlast⟩ := hlast <;> cases hlast

end QaRunner.Core
