import QaRunner.Lib.Replacement
import QaRunner.Lib.Sorting
import Mathlib.Algebra.Order.Group.Unbundled.Int
import Mathlib.Tactic.IntervalCases

/-! Redaction of secret handles and literals in log text, and what it leaves of them. -/
namespace QaRunner
open Replacement Sorting

def redactedMarker : List Char := "[REDACTED]".toList

/-- Replace each nonempty item, in order, by the marker. -/
def scrub (items : List String) (text : String) : String :=
  String.ofList (replaceEach redactedMarker (items.map String.toList) text.toList)

def redactHandles (handles : List String) (text : String) : String := scrub handles text

/-- The nonempty literals, longer ones first. -/
def longestFirst (literals : List String) : List String :=
  sortOn (fun literal => -(literal.toList.length : ℤ)) (literals.filter (· ≠ ""))

def redactLiterals (literals : List String) (text : String) : String :=
  scrub (longestFirst literals) text

/-- The whole redaction; `patterns` stands for the two regular expressions at its end. -/
def redactSecretMaterial (patterns : String → String) (text : String)
    (handles extraLiterals : List String) : String :=
  patterns (redactLiterals extraLiterals (redactHandles handles text))

/-- The scrubbed text with the position in the given one that each character is from. -/
def tracedScrub (items : List String) (text : String) : Traced Char :=
  replaceEachTraced redactedMarker (items.map String.toList) (traceFrom 0 text.toList)

theorem scrub_eq_traced (items : List String) (text : String) :
    scrub items text = String.ofList ((tracedScrub items text).map Prod.fst) := by
  rw [scrub, tracedScrub, map_replaceEachTraced, map_traceFrom]

/-- The items share no character with the marker. -/
def NoMarker (items : List String) : Prop :=
  ∀ item ∈ items, ∀ c ∈ item.toList, c ∉ redactedMarker

instance (items : List String) : Decidable (NoMarker items) :=
  decidable_of_iff (items.all fun item => item.toList.all fun c => !redactedMarker.contains c)
    (by simp [NoMarker])

/-- Occurrences of the items in the text overlap only by one being contained in the other. -/
def OverlapsNested (text : String) (items : List String) : Prop :=
  Nested text.toList (items.map String.toList)

/-- No character of any occurrence of an item is left. -/
def LeavesNothing (left : Traced Char) (text : String) (items : List String) : Prop :=
  ∀ item ∈ items, ∀ i, Occurs text.toList item.toList i →
    ∀ p, i ≤ p → p < i + item.toList.length → p ∉ origins left

/-- Every character of an occurrence lies in an occurrence of some handle that has no occurrence
of an earlier handle strictly inside. -/
def EveryPartClean (text : String) (handles : List String) : Prop :=
  ∀ handle ∈ handles, ∀ i, Occurs text.toList handle.toList i →
    ∀ p, i ≤ p → p < i + handle.toList.length → Cleared text.toList (handles.map String.toList) p

variable {text : String} {items literals : List String}

theorem mem_origins_tracedScrub (hmarker : NoMarker items) (hnested : OverlapsNested text items)
    {p : ℕ} : p ∈ origins (tracedScrub items text) ↔
      p < text.toList.length ∧ ¬ Cleared text.toList (items.map String.toList) p := by
  have hdisjoint : ∀ h ∈ items.map String.toList, ∀ c ∈ h, c ∉ redactedMarker := by
    intro h hh
    obtain ⟨item, hitem, rfl⟩ := List.mem_map.mp hh
    exact hmarker item hitem
  exact (origins_replaceEachTraced (by decide) hdisjoint hnested).2 p

theorem mem_longestFirst {literal : String} :
    literal ∈ longestFirst literals ↔ literal ∈ literals ∧ literal ≠ "" := by
  rw [longestFirst, mem_sortOn, List.mem_filter, decide_eq_true_eq]

theorem longestFirst_sorted : ((longestFirst literals).map String.toList).Pairwise
    fun g h => h.length ≤ g.length := by
  rw [List.pairwise_map]
  refine (pairwise_sortOn _ _).imp fun h => ?_
  omega

theorem OverlapsNested.longestFirst (h : OverlapsNested text literals) :
    OverlapsNested text (longestFirst literals) := by
  have hmem : ∀ g ∈ (QaRunner.longestFirst literals).map String.toList,
      g ∈ literals.map String.toList := by
    intro g hg
    obtain ⟨literal, hliteral, rfl⟩ := List.mem_map.mp hg
    exact List.mem_map_of_mem (mem_longestFirst.mp hliteral).1
  exact fun g hg h' hh' => h g (hmem g hg) h' (hmem h' hh')

/-- The literals are gone, since the longer ones are replaced first. -/
theorem literals_leave_nothing (hmarker : NoMarker literals)
    (hnested : OverlapsNested text literals) :
    LeavesNothing (tracedScrub (longestFirst literals) text) text literals := by
  intro literal hliteral i hocc p hle hlt hp
  have hne : literal ≠ "" := by
    rintro rfl
    exact hocc.1 rfl
  have hin := mem_longestFirst.mpr ⟨hliteral, hne⟩
  rw [mem_origins_tracedScrub (fun item hitem => hmarker item (mem_longestFirst.mp hitem).1)
    hnested.longestFirst] at hp
  exact hp.2 (cleared_of_longestFirst longestFirst_sorted (List.mem_map_of_mem hin) hocc hle hlt)

/-- Nothing of the handles is left exactly when every part of their occurrences is clean; of the
literals nothing is left in any case. -/
theorem redaction_leaves_nothing_iff (text : String) (handles : List String)
    (hmarker : NoMarker handles) (hnested : OverlapsNested text handles) :
    (LeavesNothing (tracedScrub handles text) text handles ∧
      ∀ (later : String) (literals : List String), NoMarker literals →
        OverlapsNested later literals →
          LeavesNothing (tracedScrub (longestFirst literals) later) later literals) ↔
    EveryPartClean text handles := by
  constructor
  · rintro ⟨h, -⟩ handle hhandle i hocc p hle hlt
    have hgone := h handle hhandle i hocc p hle hlt
    rw [mem_origins_tracedScrub hmarker hnested, not_and_not_right] at hgone
    exact hgone (hlt.trans_le hocc.length_le)
  · intro h
    refine ⟨fun handle hhandle i hocc p hle hlt hp => ?_, fun _ _ => literals_leave_nothing⟩
    rw [mem_origins_tracedScrub hmarker hnested] at hp
    exact hp.2 (h handle hhandle i hocc p hle hlt)

/-- Both handles start the text `abcde`, and stand nowhere else in it. -/
theorem occurs_abcde {handle : String} {i : ℕ} (hhandle : handle ∈ ["abcde", "abc"])
    (h : Occurs "abcde".toList handle.toList i) : i = 0 := by
  obtain ⟨-, -, hpre⟩ := h
  rw [Nat.sub_zero] at hpre
  have hfirst : "abcde".toList[i]? = some 'a' := by
    obtain ⟨rest, hrest⟩ := hpre
    rw [List.mem_cons, List.mem_singleton] at hhandle
    rw [← List.head?_drop, ← hrest]
    obtain rfl | rfl := hhandle <;> rfl
  have hlt : i < 5 := (List.getElem?_eq_some_iff.mp hfirst).1
  interval_cases i
  · rfl
  all_goals simp at hfirst

theorem nested_abcde {handles : List String}
    (h : ∀ handle ∈ handles, handle ∈ ["abcde", "abc"]) : OverlapsNested "abcde" handles := by
  intro g hg h' hh' i j hi hj
  obtain ⟨handle, hhandle, rfl⟩ := List.mem_map.mp hg
  obtain ⟨handle', hhandle', rfl⟩ := List.mem_map.mp hh'
  have hi0 := occurs_abcde (h _ hhandle) hi
  have hj0 := occurs_abcde (h _ hhandle') hj
  omega

/-- The longer handle listed first leaves nothing. -/
theorem longer_handle_first :
    LeavesNothing (tracedScrub ["abcde", "abc"] "abcde") "abcde" ["abcde", "abc"] := by
  refine ((redaction_leaves_nothing_iff "abcde" ["abcde", "abc"] (by decide)
    (nested_abcde fun _ h => h)).mpr ?_).1
  intro handle hhandle i hocc p hle hlt
  obtain rfl := occurs_abcde hhandle hocc
  have hbound := hocc.length_le
  exact ⟨[], "abcde".toList, ["abc".toList], 0, rfl,
    ⟨⟨by decide, by decide⟩, by simp⟩, hle, hlt.trans_le hbound⟩

/-- The shorter handle listed first leaves the tail of the longer one. -/
theorem shorter_handle_first : NoMarker ["abc", "abcde"] ∧
    OverlapsNested "abcde" ["abc", "abcde"] ∧
    redactHandles ["abc", "abcde"] "abcde" = "[REDACTED]de" ∧
    ¬ LeavesNothing (tracedScrub ["abc", "abcde"] "abcde") "abcde" ["abc", "abcde"] := by
  refine ⟨by decide, nested_abcde (by decide), by decide, fun h => ?_⟩
  have hocc : Occurs "abcde".toList "abcde".toList 0 := ⟨by decide, by decide⟩
  exact h "abcde" (by decide) 0 hocc 3 (by decide) (by decide) (by decide)

end QaRunner
