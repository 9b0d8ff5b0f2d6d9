import QaRunner.Lib.OrderedDict
import QaRunner.Lib.SlidingWindow
import Mathlib.Algebra.Order.Group.Unbundled.Int
import Mathlib.Algebra.Order.Ring.Rat
import Mathlib.Data.Rat.Floor

/-! The sliding-window limiter over runs of calls: the budget of every window, what a refusal
rests on and what it promises. -/
namespace QaRunner.Core
open SlidingWindow

/-- The fields of the limiter that never change. -/
structure SlidingWindowRateLimiter where
  maxCalls : ℤ := 10
  windowSeconds : ℚ := 60
  maxIdentities : ℤ := 10000

/-- `_hits`: the calls an identity's window may still cover. -/
abbrev Hits := OrderedDict String (List ℚ)

inductive RateAnswer where
  | allowed
  | rateLimited (retryAfter : ℤ)
  /-- Nothing to evict. -/
  | keyError
  /-- No oldest hit. -/
  | indexError
  deriving DecidableEq

structure RateCall where
  key : String
  now : ℚ

namespace SlidingWindowRateLimiter

def evictOne (hits : Hits) : Option Hits :=
  match hits.rows with
  | [] => none
  | _ :: _ => some hits.popFirst

/-- The second half of `check_and_record`, for an identity that is in the dictionary. -/
def recordHit (l : SlidingWindowRateLimiter) (hits : Hits) (key : String) (now : ℚ)
    (own : List ℚ) : RateAnswer × Hits :=
  let cutoff := now - l.windowSeconds
  let own := own.dropWhile fun hit => hit ≤ cutoff
  if l.maxCalls ≤ own.length then
    match own with
    | [] => (.indexError, hits.put key own)
    | oldest :: _ => (.rateLimited (max 1 ⌈oldest + l.windowSeconds - now⌉), hits.put key own)
  else (.allowed, hits.put key (own ++ [now]))

def checkAndRecord (l : SlidingWindowRateLimiter) (hits : Hits) (key : String) (now : ℚ) :
    RateAnswer × Hits :=
  if l.maxCalls ≤ 0 then (.allowed, hits)
  else
    match hits.lookup key with
    | some own => l.recordHit (hits.moveToEnd key) key now own
    | none =>
      if l.maxIdentities ≤ hits.size then
        match evictOne hits with
        | none => (.keyError, hits)
        | some hits => l.recordHit (hits.put key []) key now []
      else l.recordHit (hits.put key []) key now []

def step (l : SlidingWindowRateLimiter) (hits : Hits) (call : RateCall) : Hits :=
  (l.checkAndRecord hits call.key call.now).2

def run (l : SlidingWindowRateLimiter) (hits : Hits) (calls : List RateCall) : Hits :=
  calls.foldl l.step hits

/-- The instant of a call on the key that is allowed. -/
def newlyAllowed (l : SlidingWindowRateLimiter) (key : String) (hits : Hits) (call : RateCall) :
    List ℚ :=
  if call.key = key ∧ (l.checkAndRecord hits call.key call.now).1 = .allowed then [call.now] else []

/-- The instants of the key's allowed calls in a run. -/
def allowedAt (l : SlidingWindowRateLimiter) (key : String) : Hits → List RateCall → List ℚ
  | _, [] => []
  | hits, call :: calls => l.newlyAllowed key hits call ++ l.allowedAt key (l.step hits call) calls

/-- No call of the run makes the limiter forget the key. -/
def NotEvicted (l : SlidingWindowRateLimiter) (key : String) : Hits → List RateCall → Prop
  | _, [] => True
  | hits, call :: calls =>
    ((l.step hits call).lookup key = none → hits.lookup key = none) ∧
      l.NotEvicted key (l.step hits call) calls

/-- The instants of the calls do not decrease. -/
def InOrder (calls : List RateCall) : Prop := calls.Pairwise (·.now ≤ ·.now)

variable {l : SlidingWindowRateLimiter} {hits : Hits} {key j : String} {now last r : ℚ}
  {call : RateCall} {calls pre mid : List RateCall} {own life : List ℚ}

/-- The key's hits, none for a key that is not in the dictionary. -/
def ownHits (hits : Hits) (key : String) : List ℚ := (hits.lookup key).getD []

theorem lookup_recordHit_of_ne (h : j ≠ key) :
    (l.recordHit hits key now own).2.lookup j = hits.lookup j := by
  unfold recordHit
  dsimp only
  split
  · split <;> exact OrderedDict.lookup_put_of_ne h
  · exact OrderedDict.lookup_put_of_ne h

/-- A call on another key changes nothing for this one, unless it evicts it. -/
theorem lookup_of_ne (l : SlidingWindowRateLimiter) (hits : Hits) (now : ℚ) (h : j ≠ key) :
    (l.checkAndRecord hits key now).2.lookup j = hits.lookup j ∨
      (l.checkAndRecord hits key now).2.lookup j = none := by
  unfold checkAndRecord
  split
  · exact Or.inl rfl
  · split
    · rw [lookup_recordHit_of_ne h, OrderedDict.lookup_moveToEnd]
      exact Or.inl rfl
    · split
      · unfold evictOne
        cases hrows : hits.rows with
        | nil => exact Or.inl rfl
        | cons row rows =>
          dsimp only
          rw [lookup_recordHit_of_ne h, OrderedDict.lookup_put_of_ne h, OrderedDict.lookup_popFirst]
          split
          · exact Or.inr rfl
          · exact Or.inl rfl
      · rw [lookup_recordHit_of_ne h, OrderedDict.lookup_put_of_ne h]
        exact Or.inl rfl

/-- What a call does to the hits of its own key. -/
inductive OwnEffect (l : SlidingWindowRateLimiter) (hits : Hits) (key : String) (now : ℚ) :
    RateAnswer × Hits → Prop
  | allowed {after : Hits}
      (hroom : (trim l.windowSeconds now (ownHits hits key)).length < l.maxCalls)
      (hafter : after.lookup key = some (trim l.windowSeconds now (ownHits hits key) ++ [now])) :
      OwnEffect l hits key now (.allowed, after)
  | rateLimited {after : Hits} {oldest : ℚ} {rest : List ℚ}
      (hkept : trim l.windowSeconds now (ownHits hits key) = oldest :: rest)
      (hfull : l.maxCalls ≤ (oldest :: rest).length)
      (hafter : after.lookup key = some (oldest :: rest)) :
      OwnEffect l hits key now (.rateLimited (max 1 ⌈oldest + l.windowSeconds - now⌉), after)
  | keyError (hempty : hits.rows = []) : OwnEffect l hits key now (.keyError, hits)

theorem ownEffect_recordHit {hits' : Hits} (hmax : 1 ≤ l.maxCalls) (hown : ownHits hits key = own) :
    OwnEffect l hits key now (l.recordHit hits' key now own) := by
  subst hown
  unfold recordHit
  dsimp only
  split
  · next hfull =>
    split
    · next hnil =>
      rw [hnil] at hfull
      simp only [List.length_nil] at hfull
      omega
    · next oldest rest hkept =>
      rw [hkept] at hfull
      refine .rateLimited hkept hfull ?_
      rw [OrderedDict.lookup_put_self, hkept]
  · next hroom => exact .allowed (not_le.mp hroom) OrderedDict.lookup_put_self

theorem ownEffect (hits : Hits) (key : String) (now : ℚ) (hmax : 1 ≤ l.maxCalls) :
    OwnEffect l hits key now (l.checkAndRecord hits key now) := by
  unfold checkAndRecord
  rw [if_neg (by omega)]
  cases hlookup : hits.lookup key with
  | some own => exact ownEffect_recordHit hmax (by rw [ownHits, hlookup]; rfl)
  | none =>
    have hown : ownHits hits key = [] := by
      rw [ownHits, hlookup]
      rfl
    dsimp only
    split
    · unfold evictOne
      cases hrows : hits.rows with
      | nil => exact .keyError hrows
      | cons row rows => exact ownEffect_recordHit hmax hown
    · exact ownEffect_recordHit hmax hown

/-- The calls of the key recorded since it entered the dictionary, and its hits among them. -/
def Tracks (l : SlidingWindowRateLimiter) (key : String) (now : ℚ) (life : List ℚ)
    (hits : Hits) : Prop :=
  Budgeted l.windowSeconds l.maxCalls.toNat now life (ownHits hits key) ∧
    (hits.lookup key = none → life = [])

theorem tracks_of_none (h : hits.lookup key = none) : Tracks l key now [] hits := by
  rw [Tracks, ownHits, h]
  exact ⟨budgeted_nil, fun _ => rfl⟩

theorem ownHits_of_some (h : hits.lookup key = some own) : ownHits hits key = own := by
  rw [ownHits, h]
  rfl

theorem Tracks.step (hmax : 1 ≤ l.maxCalls) (h : Tracks l key now life hits)
    (hnow : now ≤ call.now)
    (hkept : (l.step hits call).lookup key = none → hits.lookup key = none) :
    Tracks l key call.now (life ++ l.newlyAllowed key hits call) (l.step hits call) := by
  have hbudget := h.1.later hnow
  by_cases hkey : call.key = key
  · subst hkey
    have heffect := ownEffect hits call.key call.now hmax
    unfold newlyAllowed SlidingWindowRateLimiter.step
    generalize l.checkAndRecord hits call.key call.now = answer at heffect ⊢
    cases heffect with
    | allowed hroom hafter =>
      rw [if_pos ⟨rfl, rfl⟩, Tracks, ownHits_of_some hafter]
      refine ⟨hbudget.trim.record (by omega), fun hnone => ?_⟩
      rw [hafter] at hnone
      cases hnone
    | rateLimited hcut hfull hafter =>
      rw [if_neg (by simp), List.append_nil, Tracks, ownHits_of_some hafter, ← hcut]
      refine ⟨hbudget.trim, fun hnone => ?_⟩
      rw [hafter] at hnone
      cases hnone
    | keyError hempty =>
      rw [if_neg (by simp), List.append_nil]
      exact ⟨hbudget, h.2⟩
  · have hnew : l.newlyAllowed key hits call = [] := if_neg fun hboth => hkey hboth.1
    rw [hnew, List.append_nil]
    obtain hsame | hgone := lookup_of_ne l hits call.now (Ne.symm hkey)
    · rw [Tracks, ownHits, SlidingWindowRateLimiter.step, hsame]
      exact ⟨hbudget, h.2⟩
    · rw [h.2 (hkept hgone)]
      exact tracks_of_none hgone

theorem Tracks.run (hmax : 1 ≤ l.maxCalls) (h : Tracks l key now life hits)
    (horder : InOrder calls) (hnow : ∀ call ∈ calls, now ≤ call.now)
    (hkept : l.NotEvicted key hits calls) :
    ∃ last, Tracks l key last (life ++ l.allowedAt key hits calls) (l.run hits calls) := by
  induction calls generalizing hits now life with
  | nil =>
    rw [allowedAt, List.append_nil]
    exact ⟨now, h⟩
  | cons call calls ih =>
    rw [InOrder, List.pairwise_cons] at horder
    have hstep := h.step hmax (hnow call List.mem_cons_self) hkept.1
    rw [allowedAt, ← List.append_assoc]
    exact ih hstep horder.2 horder.1 hkept.2

theorem run_append : l.run hits (calls ++ mid) = l.run (l.run hits calls) mid :=
  List.foldl_append

theorem allowedAt_append : l.allowedAt key hits (calls ++ mid) =
    l.allowedAt key hits calls ++ l.allowedAt key (l.run hits calls) mid := by
  induction calls generalizing hits with
  | nil => rfl
  | cons call calls ih =>
    rw [List.cons_append, allowedAt, allowedAt, ih, List.append_assoc]
    rfl

theorem notEvicted_append : l.NotEvicted key hits (calls ++ mid) ↔
    l.NotEvicted key hits calls ∧ l.NotEvicted key (l.run hits calls) mid := by
  induction calls generalizing hits with
  | nil => simp [NotEvicted, run]
  | cons call calls ih =>
    rw [List.cons_append, NotEvicted, NotEvicted, ih, and_assoc]
    rfl

/-- At any time of a run, some stretch up to now holds all that the limiter knows of a key. -/
theorem exists_life (key : String) (hmax : 1 ≤ l.maxCalls) (horder : InOrder calls)
    (hnow : ∀ call ∈ calls, call.now ≤ now) : ∃ pre mid, calls = pre ++ mid ∧
      l.NotEvicted key (l.run .empty pre) mid ∧
      Tracks l key now (l.allowedAt key (l.run .empty pre) mid) (l.run .empty calls) := by
  induction calls using List.reverseRecOn generalizing now with
  | nil => exact ⟨[], [], rfl, trivial, tracks_of_none rfl⟩
  | append_singleton calls call ih =>
    rw [InOrder, List.pairwise_append] at horder
    have hbefore : ∀ c ∈ calls, c.now ≤ call.now := fun c hc =>
      horder.2.2 c hc call (List.mem_singleton_self call)
    have hlast : call.now ≤ now := hnow call (by simp)
    rw [run_append]
    by_cases hkept : (l.step (l.run .empty calls) call).lookup key = none →
        (l.run .empty calls).lookup key = none
    · obtain ⟨pre, mid, rfl, hmid, htracks⟩ := ih horder.1 hbefore
      have hrun : l.run (l.run .empty pre) mid = l.run .empty (pre ++ mid) := run_append.symm
      have hstep := htracks.step hmax le_rfl hkept
      refine ⟨pre, mid ++ [call], List.append_assoc .., ?_, hstep.1.later hlast |> fun h => ?_⟩
      · rw [notEvicted_append, hrun]
        exact ⟨hmid, hkept, trivial⟩
      · rw [allowedAt_append, hrun, allowedAt, allowedAt, List.append_nil]
        exact ⟨h, hstep.2⟩
    · -- the last call evicts the key, which starts anew
      rw [Classical.not_imp] at hkept
      exact ⟨calls ++ [call], [], (List.append_nil _).symm, trivial, tracks_of_none hkept.1⟩

/-- No window of a stretch in which the key stays sees more than the budget. -/
theorem countWithin_allowedAt (hmax : 1 ≤ l.maxCalls) (horder : InOrder (pre ++ mid))
    (hkept : l.NotEvicted key (l.run .empty pre) mid) (t : ℚ) :
    countWithin l.windowSeconds t (l.allowedAt key (l.run .empty pre) mid) ≤ l.maxCalls := by
  rw [InOrder, List.pairwise_append] at horder
  cases mid with
  | nil =>
    rw [allowedAt]
    exact le_trans (by simp [countWithin]) hmax
  | cons call mid =>
    have hbefore : ∀ c ∈ pre, c.now ≤ call.now := fun c hc =>
      horder.2.2 c hc call List.mem_cons_self
    have hlater : ∀ c ∈ call :: mid, call.now ≤ c.now := by
      intro c hc
      obtain rfl | hc := List.mem_cons.mp hc
      · exact le_rfl
      · exact (List.pairwise_cons.mp horder.2.1).1 c hc
    obtain ⟨_, _, _, _, hlife⟩ := exists_life _ hmax horder.1 hbefore
    obtain ⟨last, htracks⟩ := hlife.run hmax horder.2.1 hlater hkept
    have hbudget := htracks.1.budget t
    rw [countWithin_append] at hbudget
    omega

/-- A refusal finds the budget of its own window used up. -/
theorem countWithin_of_rateLimited (hmax : 1 ≤ l.maxCalls) {retryAfter : ℤ}
    (horder : InOrder calls) (hnow : ∀ call ∈ calls, call.now ≤ now)
    (hrefused : (l.checkAndRecord (l.run .empty calls) key now).1 = .rateLimited retryAfter) :
    ∃ pre mid, calls = pre ++ mid ∧ l.NotEvicted key (l.run .empty pre) mid ∧
      countWithin l.windowSeconds now (l.allowedAt key (l.run .empty pre) mid) = l.maxCalls := by
  obtain ⟨pre, mid, hcalls, hkept, htracks⟩ := exists_life _ hmax horder hnow
  refine ⟨pre, mid, hcalls, hkept, ?_⟩
  have hroom := htracks.1.trim.room
  rw [htracks.1.countWithin_now]
  have heffect := ownEffect (l.run .empty calls) key now hmax
  generalize l.checkAndRecord (l.run .empty calls) key now = answer at heffect hrefused
  cases heffect with
  | allowed => cases hrefused
  | rateLimited hcut hfull _ =>
    rw [hcut] at hroom ⊢
    omega
  | keyError => cases hrefused

theorem rows_ne_nil_of_lookup (h : hits.lookup key = some own) : hits.rows ≠ [] := by
  intro hnil
  have hmem := OrderedDict.lookup_eq_some.mp h
  rw [hnil] at hmem
  cases hmem

/-- The dictionary never becomes empty again. -/
theorem rows_step (hmax : 1 ≤ l.maxCalls) (h : hits.rows ≠ []) : (l.step hits call).rows ≠ [] := by
  have heffect := ownEffect hits call.key call.now hmax
  unfold SlidingWindowRateLimiter.step
  generalize l.checkAndRecord hits call.key call.now = answer at heffect ⊢
  cases heffect with
  | allowed _ hafter => exact rows_ne_nil_of_lookup hafter
  | rateLimited _ _ hafter => exact rows_ne_nil_of_lookup hafter
  | keyError hempty => exact absurd hempty h

/-- A call of the key at this instant would be allowed. -/
def FreeAt (l : SlidingWindowRateLimiter) (key : String) (now : ℚ) (hits : Hits) : Prop :=
  hits.rows ≠ [] ∧ (trim l.windowSeconds now (ownHits hits key)).length < l.maxCalls

theorem FreeAt.allowed (hmax : 1 ≤ l.maxCalls) (h : FreeAt l key now hits) :
    (l.checkAndRecord hits key now).1 = .allowed := by
  have heffect := ownEffect hits key now hmax
  have hroom := h.2
  generalize l.checkAndRecord hits key now = answer at heffect ⊢
  cases heffect with
  | allowed => rfl
  | rateLimited hcut hfull _ =>
    rw [hcut] at hroom
    omega
  | keyError hempty => exact absurd hempty h.1

/-- Calls that record nothing for the key leave it free. -/
theorem FreeAt.step (hmax : 1 ≤ l.maxCalls) (h : FreeAt l key last hits)
    (hnone : l.newlyAllowed key hits call = []) : FreeAt l key last (l.step hits call) := by
  refine ⟨rows_step hmax h.1, ?_⟩
  by_cases hkey : call.key = key
  · subst hkey
    have heffect := ownEffect hits call.key call.now hmax
    unfold newlyAllowed at hnone
    unfold SlidingWindowRateLimiter.step
    generalize l.checkAndRecord hits call.key call.now = answer at heffect hnone ⊢
    cases heffect with
    | allowed => simp at hnone
    | rateLimited hcut hfull hafter =>
      rw [ownHits_of_some hafter, ← hcut]
      have hsuffix : trim l.windowSeconds call.now (ownHits hits call.key) <:+
          ownHits hits call.key := List.dropWhile_suffix _
      have hle := length_trim_suffix l.windowSeconds last hsuffix
      exact lt_of_le_of_lt (Int.ofNat_le.mpr hle) h.2
    | keyError hempty => exact absurd hempty h.1
  · obtain hsame | hgone := lookup_of_ne l hits call.now (Ne.symm hkey)
    · rw [ownHits, SlidingWindowRateLimiter.step, hsame]
      exact h.2
    · rw [ownHits, SlidingWindowRateLimiter.step, hgone]
      exact lt_of_lt_of_le Int.zero_lt_one hmax

theorem FreeAt.run (hmax : 1 ≤ l.maxCalls) (h : FreeAt l key last hits)
    (hnone : l.allowedAt key hits calls = []) : FreeAt l key last (l.run hits calls) := by
  induction calls generalizing hits with
  | nil => exact h
  | cons call calls ih =>
    rw [allowedAt, List.append_eq_nil_iff] at hnone
    exact ih (h.step hmax hnone.1) hnone.2

/-- A refusal names a delay after which the oldest hit has left the window. -/
theorem freeAt_of_rateLimited (hmax : 1 ≤ l.maxCalls) {retryAfter : ℤ} (horder : InOrder calls)
    (hnow : ∀ call ∈ calls, call.now ≤ now)
    (hrefused : (l.checkAndRecord (l.run .empty calls) key now).1 = .rateLimited retryAfter) :
    FreeAt l key (now + retryAfter) (l.step (l.run .empty calls) ⟨key, now⟩) := by
  obtain ⟨pre, mid, _, _, htracks⟩ := exists_life key hmax horder hnow
  have hroom := htracks.1.trim.room
  have heffect := ownEffect (l.run .empty calls) key now hmax
  unfold SlidingWindowRateLimiter.step
  generalize l.checkAndRecord (l.run .empty calls) key now = answer at heffect hrefused ⊢
  cases heffect with
  | allowed => cases hrefused
  | @rateLimited after oldest rest hcut hfull hafter =>
    refine ⟨rows_ne_nil_of_lookup hafter, ?_⟩
    injection hrefused with hdelay
    have hceil : oldest + l.windowSeconds - now ≤ retryAfter := by
      rw [← hdelay]
      exact (Int.le_ceil _).trans (Int.cast_le.mpr (le_max_right _ _))
    have hleft : oldest ≤ now + retryAfter - l.windowSeconds := by linarith
    rw [ownHits_of_some hafter, trim, List.dropWhile_cons_of_pos (by simpa using hleft)]
    have hrest := (List.dropWhile_sublist (l := rest)
      fun hit => hit ≤ now + retryAfter - l.windowSeconds).length_le
    rw [hcut, List.length_cons] at hroom
    omega
  | keyError => cases hrefused

end SlidingWindowRateLimiter

open SlidingWindowRateLimiter

/-- Over every run: no window of a stretch in which a key stays sees more calls than the budget,
a refusal finds the budget used up by the window that ends with it, and the call the delay
promises is allowed unless another one came first. -/
theorem limiter_enforces_budget (l : SlidingWindowRateLimiter) (hmax : 1 ≤ l.maxCalls)
    (key : String) :
    (∀ pre mid, InOrder (pre ++ mid) → l.NotEvicted key (l.run .empty pre) mid → ∀ t,
      countWithin l.windowSeconds t (l.allowedAt key (l.run .empty pre) mid) ≤ l.maxCalls) ∧
    (∀ calls now retryAfter, InOrder (calls ++ [⟨key, now⟩]) →
      (l.checkAndRecord (l.run .empty calls) key now).1 = .rateLimited retryAfter →
      ∃ pre mid, calls = pre ++ mid ∧ l.NotEvicted key (l.run .empty pre) mid ∧
        countWithin l.windowSeconds now (l.allowedAt key (l.run .empty pre) mid) = l.maxCalls) ∧
    ∀ calls later now retryAfter,
      InOrder (calls ++ ⟨key, now⟩ :: later ++ [⟨key, now + (retryAfter : ℤ)⟩]) →
      (l.checkAndRecord (l.run .empty calls) key now).1 = .rateLimited retryAfter →
      l.allowedAt key (l.run .empty (calls ++ [⟨key, now⟩])) later = [] →
      (l.checkAndRecord (l.run .empty (calls ++ ⟨key, now⟩ :: later)) key (now + retryAfter)).1 =
        .allowed := by
  refine ⟨fun pre mid horder hkept t => countWithin_allowedAt hmax horder hkept t, ?_, ?_⟩
  · intro calls now retryAfter horder hrefused
    rw [InOrder, List.pairwise_append] at horder
    exact countWithin_of_rateLimited hmax horder.1
      (fun call hcall => horder.2.2 call hcall _ (List.mem_singleton_self _)) hrefused
  · intro calls later now retryAfter horder hrefused hnone
    rw [InOrder, List.append_assoc, List.pairwise_append] at horder
    have hfree := freeAt_of_rateLimited hmax horder.1
      (fun call hcall => horder.2.2 call hcall _ List.mem_cons_self) hrefused
    rw [run_append] at hnone
    have hlater := hfree.run hmax hnone
    rw [run_append]
    exact hlater.allowed hmax

/-- One call a minute: the second one is told to come back, and does. -/
theorem limiter_allows_after_delay : (checkAndRecord { maxCalls := 1 }
    (run { maxCalls := 1 } .empty [⟨"k", 0⟩, ⟨"k", 1⟩]) "k" (1 + (59 : ℤ))).1 = .allowed :=
  (limiter_enforces_budget { maxCalls := 1 } le_rfl "k").2.2 [⟨"k", 0⟩] [] 1 59
    (by norm_num [InOrder]) (by decide +kernel) rfl

end QaRunner.Core
