import Mathlib.Algebra.Order.Group.Defs
import Mathlib.Algebra.Order.Group.Unbundled.Basic
import Mathlib.Data.List.Pairwise
import Mathlib.Data.List.TakeWhile

/-! A budget for every window of time, enforced from the recent times alone. -/
namespace SlidingWindow
variable {T : Type} [LinearOrder T] [AddCommGroup T] {w now now' t : T} {n : ℕ}
  {all kept xs ys : List T} {x : T}

/-- The half-open window that ends at `t`. -/
def Within (w t x : T) : Prop := t - w < x ∧ x ≤ t

instance (w t x : T) : Decidable (Within w t x) := inferInstanceAs (Decidable (_ ∧ _))

/-- How many of the times lie in the window that ends at `t`. -/
def countWithin (w t : T) (xs : List T) : ℕ := xs.countP fun x => Within w t x

/-- What the window that ends now still covers, of times in order. -/
def trim (w now : T) (xs : List T) : List T := xs.dropWhile fun x => x ≤ now - w

theorem countWithin_append : countWithin w t (xs ++ ys) =
    countWithin w t xs + countWithin w t ys := List.countP_append

theorem countWithin_le_length : countWithin w t xs ≤ xs.length := List.countP_le_length

theorem countWithin_eq_zero (h : ∀ x ∈ xs, x ≤ t - w) : countWithin w t xs = 0 := by
  rw [countWithin, List.countP_eq_zero]
  intro x hx hwithin
  exact absurd (of_decide_eq_true hwithin).1 (not_lt_of_ge (h x hx))

theorem countWithin_eq_length (h : ∀ x ∈ xs, t - w < x ∧ x ≤ t) :
    countWithin w t xs = xs.length := by
  rw [countWithin, List.countP_eq_length]
  exact fun x hx => decide_eq_true (h x hx)

/-- Trimming sorted times leaves those inside the window. -/
theorem lt_of_mem_trim (h : xs.Pairwise (· ≤ ·)) (hx : x ∈ trim w now xs) : now - w < x := by
  induction xs with
  | nil => cases hx
  | cons y ys ih =>
    rw [List.pairwise_cons] at h
    by_cases hy : y ≤ now - w
    · rw [trim, List.dropWhile_cons_of_pos (by simpa using hy)] at hx
      exact ih h.2 hx
    · rw [trim, List.dropWhile_cons_of_neg (by simpa using hy), List.mem_cons] at hx
      obtain rfl | hx := hx
      · exact lt_of_not_ge hy
      · exact lt_of_lt_of_le (lt_of_not_ge hy) (h.1 x hx)

/-- A later part of the times leaves no more. -/
theorem length_trim_suffix (w now : T) (h : xs <:+ ys) :
    (trim w now xs).length ≤ (trim w now ys).length := by
  induction ys with
  | nil => rw [List.suffix_nil.mp h]
  | cons y ys ih =>
    obtain rfl | hsuffix := List.suffix_cons_iff.mp h
    · exact le_refl _
    · refine (ih hsuffix).trans ?_
      by_cases hy : y ≤ now - w
      · rw [trim, trim, List.dropWhile_cons_of_pos (by simpa using hy)]
      · rw [trim, trim, List.dropWhile_cons_of_neg (by simpa using hy), List.length_cons]
        exact (List.dropWhile_sublist _).length_le.trans (Nat.le_succ _)

/-- The times recorded so far and those of them that are kept: the others have left the window,
and no window has seen more than the budget. -/
structure Budgeted (w : T) (n : ℕ) (now : T) (all kept : List T) : Prop where
  forgotten : ∃ dropped, all = dropped ++ kept ∧ ∀ x ∈ dropped, x ≤ now - w
  sorted : all.Pairwise (· ≤ ·)
  past : ∀ x ∈ all, x ≤ now
  room : kept.length ≤ n
  budget : ∀ t, countWithin w t all ≤ n

theorem budgeted_nil : Budgeted w n now [] [] where
  forgotten := ⟨[], rfl, fun _ h => nomatch h⟩
  sorted := .nil
  past := fun _ h => nomatch h
  room := Nat.zero_le n
  budget := fun _ => Nat.zero_le n

namespace Budgeted

/-- What has left the window need not be kept. -/
theorem trim (h : Budgeted w n now all kept) : Budgeted w n now all (trim w now kept) where
  forgotten := by
    obtain ⟨dropped, hall, hdropped⟩ := h.forgotten
    refine ⟨dropped ++ kept.takeWhile fun x => x ≤ now - w, ?_, fun x hx => ?_⟩
    · rw [hall, List.append_assoc, SlidingWindow.trim, List.takeWhile_append_dropWhile]
    · obtain hx | hx := List.mem_append.mp hx
      · exact hdropped x hx
      · simpa using List.mem_takeWhile_imp hx
  sorted := h.sorted
  past := h.past
  room := (List.dropWhile_sublist _).length_le.trans h.room
  budget := h.budget

/-- What is kept after trimming is what the window that ends now has seen. -/
theorem countWithin_now (h : Budgeted w n now all kept) :
    countWithin w now all = (SlidingWindow.trim w now kept).length := by
  obtain ⟨dropped, hall, hdropped⟩ := h.trim.forgotten
  have hsorted := h.sorted
  have hpast := h.past
  rw [hall] at hsorted hpast ⊢
  have hzero : countWithin w now dropped = 0 := countWithin_eq_zero hdropped
  rw [countWithin_append, hzero, Nat.zero_add]
  apply countWithin_eq_length
  intro x hx
  have hkept : kept.Pairwise (· ≤ ·) := by
    obtain ⟨first, hfirst, _⟩ := h.forgotten
    have hall' := h.sorted
    rw [hfirst] at hall'
    exact (List.pairwise_append.mp hall').2.1
  exact ⟨lt_of_mem_trim hkept hx, hpast x (List.mem_append_right _ hx)⟩

variable [IsOrderedAddMonoid T]

theorem later (h : Budgeted w n now all kept) (hnow : now ≤ now') :
    Budgeted w n now' all kept where
  forgotten := by
    obtain ⟨dropped, hall, hdropped⟩ := h.forgotten
    exact ⟨dropped, hall, fun x hx => (hdropped x hx).trans (sub_le_sub_right hnow w)⟩
  sorted := h.sorted
  past := fun x hx => (h.past x hx).trans hnow
  room := h.room
  budget := h.budget

/-- A time is recorded while there is room: a window that sees it has forgotten the dropped ones. -/
theorem record (h : Budgeted w n now all kept) (hroom : kept.length < n) :
    Budgeted w n now (all ++ [now]) (kept ++ [now]) where
  forgotten := by
    obtain ⟨dropped, hall, hdropped⟩ := h.forgotten
    exact ⟨dropped, by rw [hall, List.append_assoc], hdropped⟩
  sorted := List.pairwise_append.mpr ⟨h.sorted, List.pairwise_singleton _ _, by simpa using h.past⟩
  past := by
    intro x hx
    obtain hx | hx := List.mem_append.mp hx
    · exact h.past x hx
    · exact le_of_eq (List.mem_singleton.mp hx)
  room := by
    rw [List.length_append, List.length_singleton]
    exact hroom
  budget := by
    intro t
    rw [countWithin_append]
    by_cases ht : Within w t now
    · obtain ⟨dropped, hall, hdropped⟩ := h.forgotten
      have hzero : countWithin w t dropped = 0 :=
        countWithin_eq_zero fun x hx => (hdropped x hx).trans (sub_le_sub_right ht.2 w)
      have hkept : countWithin w t kept ≤ kept.length := countWithin_le_length
      have hone : countWithin w t [now] ≤ 1 := countWithin_le_length
      rw [hall, countWithin_append]
      omega
    · have hnone : countWithin w t [now] = 0 := by simp [countWithin, ht]
      rw [hnone]
      exact h.budget t

end Budgeted
end SlidingWindow
