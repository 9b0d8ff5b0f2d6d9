import QaRunner.Lib.OrderedDict

/-! The baseline diff of two runs' cases: which bucket each identity falls in, and the mirror
image of a diff. -/
namespace QaRunner.Core

structure TestCaseResult where
  suite : String
  name : String
  status : String
  durationMs : ℤ
  message : Option String := none
  deriving DecidableEq

structure RegressionDiff where
  newFailures : List TestCaseResult := []
  fixed : List TestCaseResult := []
  stillFailing : List TestCaseResult := []
  newCases : List TestCaseResult := []
  removedCases : List TestCaseResult := []

namespace Regression

abbrev CaseIdentity := String × String

def failedStatuses : List String := ["failed", "error"]

def identity (case : TestCaseResult) : CaseIdentity := (case.suite, case.name)

def IsFailure (case : TestCaseResult) : Prop := case.status ∈ failedStatuses

instance (case : TestCaseResult) : Decidable (IsFailure case) :=
  inferInstanceAs (Decidable (_ ∈ _))

/-- One pass of the loop over the head's dictionary. -/
def classifyHead (baseBy : OrderedDict CaseIdentity TestCaseResult) (d : RegressionDiff)
    (item : CaseIdentity × TestCaseResult) : RegressionDiff :=
  match baseBy.lookup item.1 with
  | none => { d with newCases := d.newCases ++ [item.2] }
  | some base =>
    if IsFailure item.2 ∧ ¬ IsFailure base then
      { d with newFailures := d.newFailures ++ [item.2] }
    else if ¬ IsFailure item.2 ∧ IsFailure base then { d with fixed := d.fixed ++ [item.2] }
    else if IsFailure item.2 ∧ IsFailure base then
      { d with stillFailing := d.stillFailing ++ [item.2] }
    else d

/-- One pass of the loop over the base's dictionary. -/
def classifyBase (headBy : OrderedDict CaseIdentity TestCaseResult) (d : RegressionDiff)
    (item : CaseIdentity × TestCaseResult) : RegressionDiff :=
  if headBy.lookup item.1 = none then { d with removedCases := d.removedCases ++ [item.2] } else d

def diff (baseCases headCases : List TestCaseResult) : RegressionDiff :=
  let baseBy := OrderedDict.ofList identity baseCases
  let headBy := OrderedDict.ofList identity headCases
  baseBy.rows.foldl (classifyBase headBy) (headBy.rows.foldl (classifyHead baseBy) {})

inductive Bucket where
  | newFailures
  | fixed
  | stillFailing
  | newCases
  | removedCases
  deriving DecidableEq

/-- The bucket that mirrors this one when base and head change places. -/
def Bucket.dual : Bucket → Bucket
  | .newFailures => .fixed
  | .fixed => .newFailures
  | .stillFailing => .stillFailing
  | .newCases => .removedCases
  | .removedCases => .newCases

/-- The run whose cases a bucket holds. -/
def Bucket.side (base head : List TestCaseResult) : Bucket → List TestCaseResult
  | .removedCases => base
  | _ => head

def bucketCases (d : RegressionDiff) : Bucket → List TestCaseResult
  | .newFailures => d.newFailures
  | .fixed => d.fixed
  | .stillFailing => d.stillFailing
  | .newCases => d.newCases
  | .removedCases => d.removedCases

/-- What a case's results in the two runs say, each absent when the run has no such case. -/
def signal : Option TestCaseResult → Option TestCaseResult → Option Bucket
  | none, none => none
  | none, some _ => some .newCases
  | some _, none => some .removedCases
  | some base, some head =>
    if IsFailure head then if IsFailure base then some .stillFailing else some .newFailures
    else if IsFailure base then some .fixed else none

/-- The result that counts: the last one of an identity. -/
def lastOf (cases : List TestCaseResult) (k : CaseIdentity) : Option TestCaseResult :=
  (cases.filter (identity · = k)).getLast?

def signalOf (base head : List TestCaseResult) (k : CaseIdentity) : Option Bucket :=
  signal (lastOf base k) (lastOf head k)

/-- An identity falls in a bucket, or gives no signal: it is in both runs and fails in neither. -/
def Falls (base head : List TestCaseResult) (k : CaseIdentity) : Option Bucket → Prop
  | some b => k ∈ (bucketCases (diff base head) b).map identity
  | none =>
    ∃ x y, lastOf base k = some x ∧ lastOf head k = some y ∧ ¬ IsFailure x ∧ ¬ IsFailure y

variable {base head cases : List TestCaseResult} {b : Bucket} {k : CaseIdentity}
  {case : TestCaseResult} {d : RegressionDiff} {item : CaseIdentity × TestCaseResult}
  {dict : OrderedDict CaseIdentity TestCaseResult}

theorem Bucket.dual_dual (b : Bucket) : b.dual.dual = b := by
  cases b <;> rfl

/-- Exchanging the runs exchanges what they say. -/
theorem signal_swap (x y : Option TestCaseResult) : signal y x = (signal x y).map Bucket.dual := by
  cases x with
  | none => cases y <;> rfl
  | some x =>
    cases y with
    | none => rfl
    | some y =>
      unfold signal
      by_cases hx : IsFailure x <;> by_cases hy : IsFailure y <;> simp [hx, hy, Bucket.dual]

theorem bucketCases_classifyHead : bucketCases (classifyHead dict d item) b = bucketCases d b ++
    if signal (dict.lookup item.1) (some item.2) = some b then [item.2] else [] := by
  unfold classifyHead
  cases dict.lookup item.1 with
  | none => cases b <;> simp [bucketCases, signal]
  | some base =>
    by_cases hx : IsFailure item.2 <;> by_cases hy : IsFailure base <;>
      cases b <;> simp [bucketCases, signal, hx, hy]

theorem bucketCases_classifyBase : bucketCases (classifyBase dict d item) b =
    bucketCases d b ++ if b = .removedCases ∧ dict.lookup item.1 = none then [item.2] else [] := by
  unfold classifyBase
  by_cases h : dict.lookup item.1 = none <;> cases b <;> simp [bucketCases, h]

/-- A loop that appends some of its items to a bucket appends them in order. -/
theorem bucketCases_foldl {step : RegressionDiff → CaseIdentity × TestCaseResult → RegressionDiff}
    {q : CaseIdentity × TestCaseResult → Prop} [DecidablePred q]
    (hstep : ∀ d item, bucketCases (step d item) b =
      bucketCases d b ++ if q item then [item.2] else [])
    (items : List (CaseIdentity × TestCaseResult)) (d : RegressionDiff) :
    bucketCases (items.foldl step d) b = bucketCases d b ++ (items.filter q).map Prod.snd := by
  induction items generalizing d with
  | nil => simp
  | cons item items ih =>
    rw [List.foldl_cons, ih, hstep, List.append_assoc]
    by_cases h : q item <;> simp [h]

theorem lookup_ofList : (OrderedDict.ofList identity cases).lookup k = lastOf cases k :=
  OrderedDict.lookup_ofList

theorem lastOf_of_mem (h : item ∈ (OrderedDict.ofList identity cases).rows) :
    lastOf cases item.1 = some item.2 := OrderedDict.mem_rows_ofList.mp h

theorem signal_eq_removedCases {x y : Option TestCaseResult} :
    signal x y = some .removedCases ↔ x.isSome ∧ y = none := by
  cases x <;> cases y <;> simp [signal]
  split <;> split <;> simp

/-- A bucket lists its run's dictionary, less the identities that say something else. -/
theorem bucketCases_diff : bucketCases (diff base head) b =
    ((OrderedDict.ofList identity (b.side base head)).rows.filter
      (fun item => signalOf base head item.1 = some b)).map Prod.snd := by
  have hhead := bucketCases_foldl (b := b) fun d item =>
    (bucketCases_classifyHead :
      bucketCases (classifyHead (.ofList identity base) d item) b = _)
  have hbase := bucketCases_foldl (b := b) fun d item =>
    (bucketCases_classifyBase :
      bucketCases (classifyBase (.ofList identity head) d item) b = _)
  have hempty : bucketCases {} b = [] := by cases b <;> rfl
  rw [diff, hbase, hhead, hempty, List.nil_append]
  by_cases hb : b = .removedCases
  · -- no case of the head is a removed one
    subst hb
    rw [List.filter_eq_nil_iff.mpr, List.map_nil, List.nil_append]
    · congr 1
      apply List.filter_congr
      intro item hitem
      have hlast := lastOf_of_mem hitem
      simp [signalOf, signal_eq_removedCases, hlast, lookup_ofList]
    · intro item _
      simp [signal_eq_removedCases]
  · have hside : b.side base head = head := by cases b <;> simp_all [Bucket.side]
    rw [hside]
    simp only [hb, false_and, decide_false, List.filter_false, List.map_nil, List.append_nil]
    congr 1
    apply List.filter_congr
    intro item hitem
    rw [signalOf, lastOf_of_mem hitem, lookup_ofList]

theorem mem_bucketCases : case ∈ bucketCases (diff base head) b ↔
    lastOf (b.side base head) (identity case) = some case ∧
      signalOf base head (identity case) = some b := by
  rw [bucketCases_diff, List.mem_map]
  constructor
  · rintro ⟨item, hitem, rfl⟩
    obtain ⟨hrow, hsignal⟩ := List.mem_filter.mp hitem
    rw [OrderedDict.key_of_mem_ofList hrow]
    exact ⟨lastOf_of_mem hrow, of_decide_eq_true hsignal⟩
  · rintro ⟨hlast, hsignal⟩
    have hrow : (identity case, case) ∈ (OrderedDict.ofList identity (b.side base head)).rows :=
      OrderedDict.mem_rows_ofList.mpr hlast
    exact ⟨_, List.mem_filter.mpr ⟨hrow, decide_eq_true hsignal⟩, rfl⟩

/-- A bucket's run has every identity that says this bucket. -/
theorem lastOf_side (h : signalOf base head k = some b) :
    ∃ case, lastOf (b.side base head) k = some case := by
  rw [← Option.isSome_iff_exists]
  unfold signalOf at h
  cases hx : lastOf base k with
  | none =>
    cases hy : lastOf head k with
    | none => simp [hx, hy, signal] at h
    | some y =>
      rw [hx, hy] at h
      cases h
      simp [Bucket.side, hy]
  | some x =>
    cases hy : lastOf head k with
    | none =>
      rw [hx, hy] at h
      cases h
      simp [Bucket.side, hx]
    | some y =>
      have hne : b ≠ .removedCases := by
        rintro rfl
        rw [signal_eq_removedCases, hy] at h
        exact absurd h.2 (by simp)
      have hside : b.side base head = head := by cases b <;> simp_all [Bucket.side]
      rw [hside, hy]
      rfl

theorem identity_of_lastOf (h : lastOf cases k = some case) : identity case = k := by
  have hmem := List.mem_of_getLast? h
  simpa using (List.mem_filter.mp hmem).2

theorem mem_identities : k ∈ (bucketCases (diff base head) b).map identity ↔
    signalOf base head k = some b := by
  rw [List.mem_map]
  constructor
  · rintro ⟨case, hcase, rfl⟩
    exact (mem_bucketCases.mp hcase).2
  · intro h
    obtain ⟨case, hlast⟩ := lastOf_side h
    have hk := identity_of_lastOf hlast
    subst hk
    exact ⟨case, mem_bucketCases.mpr ⟨hlast, h⟩, rfl⟩

theorem bucketCases_nodup : ((bucketCases (diff base head) b).map identity).Nodup := by
  have hkeys : (bucketCases (diff base head) b).map identity =
      ((OrderedDict.ofList identity (b.side base head)).rows.filter
        (fun item => signalOf base head item.1 = some b)).map Prod.fst := by
    rw [bucketCases_diff, List.map_map]
    apply List.map_congr_left
    intro item hitem
    exact OrderedDict.key_of_mem_ofList (List.mem_filter.mp hitem).1
  rw [hkeys]
  exact (OrderedDict.ofList identity _).primary.sublist (List.filter_sublist.map _)

theorem exists_lastOf (h : k ∈ cases.map identity) : ∃ case, lastOf cases k = some case := by
  obtain ⟨case, hcase, hk⟩ := List.mem_map.mp h
  have hmem : case ∈ cases.filter (identity · = k) := List.mem_filter.mpr ⟨hcase, by simpa using hk⟩
  exact Option.isSome_iff_exists.mp (List.getLast?_isSome.mpr (List.ne_nil_of_mem hmem))

/-- An identity of either list falls where its results say, and nowhere else. -/
theorem falls_iff (hk : k ∈ (base ++ head).map identity) {o : Option Bucket} :
    Falls base head k o ↔ o = signalOf base head k := by
  cases o with
  | some b => rw [Falls, mem_identities, eq_comm]
  | none =>
    constructor
    · rintro ⟨x, y, hx, hy, hbase, hhead⟩
      simp [signalOf, hx, hy, signal, hbase, hhead]
    · intro h
      rw [List.map_append, List.mem_append] at hk
      unfold signalOf at h
      cases hx : lastOf base k with
      | none =>
        cases hy : lastOf head k with
        | none =>
          obtain hk | hk := hk
          · obtain ⟨x, hx'⟩ := exists_lastOf hk
            rw [hx] at hx'
            cases hx'
          · obtain ⟨y, hy'⟩ := exists_lastOf hk
            rw [hy] at hy'
            cases hy'
        | some y =>
          rw [hx, hy] at h
          cases h
      | some x =>
        cases hy : lastOf head k with
        | none =>
          rw [hx, hy] at h
          cases h
        | some y =>
          refine ⟨x, y, hx, hy, ?_⟩
          rw [hx, hy, signal] at h
          by_cases hhead : IsFailure y <;> by_cases hbase : IsFailure x <;>
            simp [hhead, hbase] at h ⊢

end Regression

open Regression in
/-- Every identity of either run falls in one bucket or gives no signal, as its last results say;
a bucket holds an identity once, with its last result, and mirrored runs mirror the buckets. -/
theorem diff_classifies (base head : List TestCaseResult) :
    (∀ k ∈ (base ++ head).map identity, (∃! o, Falls base head k o) ∧
      ∀ o, Falls base head k o ↔ o = signalOf base head k) ∧
    (∀ b, ((bucketCases (diff base head) b).map identity).Nodup ∧
      ∀ case ∈ bucketCases (diff base head) b,
        lastOf (b.side base head) (identity case) = some case) ∧
    ∀ b, ((bucketCases (diff head base) b).map identity).Perm
      ((bucketCases (diff base head) b.dual).map identity) := by
  refine ⟨fun k hk => ⟨?_, fun o => falls_iff hk⟩, fun b => ⟨bucketCases_nodup, ?_⟩, fun b => ?_⟩
  · exact ⟨signalOf base head k, (falls_iff hk).mpr rfl, fun o ho => (falls_iff hk).mp ho⟩
  · intro case hcase
    exact (mem_bucketCases.mp hcase).1
  · rw [List.perm_ext_iff_of_nodup bucketCases_nodup bucketCases_nodup]
    intro k
    rw [mem_identities, mem_identities]
    unfold signalOf
    rw [signal_swap]
    cases signal (lastOf base k) (lastOf head k) with
    | none => simp
    | some c =>
      rw [Option.map_some, Option.some_inj, Option.some_inj]
      constructor
      · rintro rfl
        exact (Bucket.dual_dual c).symm
      · rintro rfl
        exact Bucket.dual_dual b

end QaRunner.Core
