import Mathlib.Order.Lattice
import Mathlib.Algebra.Order.BigOperators.Group.List
import Mathlib.Algebra.Order.Ring.Int

/-! Weighted half-open intervals: the load at an instant, and where the load of a window is
highest. -/
namespace Occupancy

variable {ι τ : Type} [LinearOrder τ] (start finish : ι → τ) (weight : ι → ℤ)

/-- The interval contains the instant. -/
def Covers (x : ι) (t : τ) : Prop := start x ≤ t ∧ t < finish x

instance (x : ι) (t : τ) : Decidable (Covers start finish x t) :=
  inferInstanceAs (Decidable (_ ∧ _))

/-- The weights of the intervals that contain the instant. -/
def load (xs : List ι) (t : τ) : ℤ :=
  ((xs.filter fun x => Covers start finish x t).map weight).sum

variable {start finish weight} {xs ys : List ι} {s t a : τ}

@[simp] theorem load_nil : load start finish weight [] t = 0 := rfl

theorem load_cons (x : ι) : load start finish weight (x :: xs) t =
    (if Covers start finish x t then weight x else 0) + load start finish weight xs t := by
  by_cases h : Covers start finish x t <;> simp [load, h]

theorem load_append : load start finish weight (xs ++ ys) t =
    load start finish weight xs t + load start finish weight ys t := by
  simp [load]

theorem load_le_of_sublist (hw : ∀ x ∈ ys, 0 ≤ weight x) (h : xs.Sublist ys) :
    load start finish weight xs t ≤ load start finish weight ys t := by
  apply ((h.filter _).map weight).sum_le_sum
  simp only [List.forall_mem_map, List.mem_filter]
  exact fun x hx => hw x hx.1

/-- An instant that every interval containing `t` contains bears at least the load of `t`. -/
theorem load_le_of_covers (hw : ∀ x ∈ xs, 0 ≤ weight x)
    (h : ∀ x ∈ xs, Covers start finish x t → Covers start finish x s) :
    load start finish weight xs t ≤ load start finish weight xs s := by
  induction xs with
  | nil => rfl
  | cons x xs ih =>
    rw [List.forall_mem_cons] at hw h
    have hrest := ih hw.2 h.2
    rw [load_cons, load_cons]
    by_cases ht : Covers start finish x t
    · rw [if_pos ht, if_pos (h.1 ht)]
      omega
    · rw [if_neg ht]
      split <;> omega

/-- From `a` up to `t` the load is highest at `a` or where an interval containing `t` starts. -/
theorem exists_peak (xs : List ι) (hat : a ≤ t) : ∃ s, a ≤ s ∧ s ≤ t ∧
    (s = a ∨ a < s ∧ ∃ x ∈ xs, start x = s ∧ t < finish x) ∧
    ∀ x ∈ xs, Covers start finish x t → Covers start finish x s := by
  induction xs with
  | nil => exact ⟨a, le_rfl, hat, Or.inl rfl, by simp⟩
  | cons x xs ih =>
    obtain ⟨s, has, hst, hs, hcovers⟩ := ih
    by_cases hx : Covers start finish x t ∧ s < start x
    · -- the new interval starts last: the others reach from before it to `t`
      obtain ⟨hx, hlt⟩ := hx
      refine ⟨start x, has.trans hlt.le, hx.1, Or.inr ⟨has.trans_lt hlt, x, ?_⟩, ?_⟩
      · exact ⟨List.mem_cons_self, rfl, hx.2⟩
      · rw [List.forall_mem_cons]
        refine ⟨fun _ => ⟨le_rfl, hx.1.trans_lt hx.2⟩, fun y hy ht => ?_⟩
        exact ⟨(hcovers y hy ht).1.trans hlt.le, hx.1.trans_lt ht.2⟩
    · refine ⟨s, has, hst, ?_, ?_⟩
      · rcases hs with hs | ⟨hlt, y, hy, hstart⟩
        · exact Or.inl hs
        · exact Or.inr ⟨hlt, y, List.mem_cons_of_mem _ hy, hstart⟩
      · rw [List.forall_mem_cons]
        refine ⟨fun ht => ⟨?_, hst.trans_lt ht.2⟩, hcovers⟩
        exact le_of_not_gt fun hlt => hx ⟨ht, hlt⟩

end Occupancy
