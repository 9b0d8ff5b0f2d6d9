import Mathlib.Data.List.Forall2
import Mathlib.Data.Int.Notation

/-! Verdicts that accept a list when no element blocks and few enough need toleration:
making elements worse never turns a rejected list into an accepted one. -/
namespace Tolerance

variable {α : Type} {blocks tolerated : α → Prop} [DecidablePred tolerated] {R : α → α → Prop}
  {x y : α} {xs ys : List α} {bound : ℤ}

/-- Nothing blocks, and at most `bound` elements need toleration. -/
def Passes (blocks tolerated : α → Prop) [DecidablePred tolerated] (bound : ℤ) (xs : List α) :
    Prop :=
  (∀ x ∈ xs, ¬ blocks x) ∧ (xs.countP (tolerated ·) : ℤ) ≤ bound

theorem free_of_worse (hblocks : ∀ x y, R x y → blocks x → blocks y)
    (h : List.Forall₂ R xs ys) (hy : ∀ y ∈ ys, ¬ blocks y) : ∀ x ∈ xs, ¬ blocks x := by
  induction h with
  | nil => exact hy
  | cons hxy _ ih =>
    rw [List.forall_mem_cons] at hy ⊢
    exact ⟨fun hx => hy.1 (hblocks _ _ hxy hx), ih hy.2⟩

theorem count_le_of_worse (htol : ∀ x y, R x y → tolerated x → tolerated y ∨ blocks y)
    (h : List.Forall₂ R xs ys) (hy : ∀ y ∈ ys, ¬ blocks y) :
    xs.countP (tolerated ·) ≤ ys.countP (tolerated ·) := by
  induction h with
  | nil => exact Nat.le_refl _
  | @cons x y xs ys hxy _ ih =>
    rw [List.forall_mem_cons] at hy
    have htail := ih hy.2
    by_cases hx : tolerated x
    · have hhead := (htol x y hxy hx).resolve_right hy.1
      simp only [List.countP_cons, hx, hhead, decide_true, if_true]
      omega
    · simp only [List.countP_cons, hx, decide_false, Bool.false_eq_true, if_false]
      omega

/-- If every element of `ys` is as bad as the one of `xs` in its place, and `ys` passes, then
so does `xs`. -/
theorem Passes.of_worse (hblocks : ∀ x y, R x y → blocks x → blocks y)
    (htol : ∀ x y, R x y → tolerated x → tolerated y ∨ blocks y)
    (h : List.Forall₂ R xs ys) (hy : Passes blocks tolerated bound ys) :
    Passes blocks tolerated bound xs := by
  have hcount := count_le_of_worse htol h hy.1
  have hbound := hy.2
  exact ⟨free_of_worse hblocks h hy.1, by omega⟩

/-- Replacing one element relates the lists place by place. -/
theorem forall₂_replace (hrefl : ∀ x, R x x) (hxy : R x y) (pre post : List α) :
    List.Forall₂ R (pre ++ x :: post) (pre ++ y :: post) := by
  induction pre with
  | nil => exact .cons hxy (List.forall₂_same.mpr fun x _ => hrefl x)
  | cons a pre ih => exact .cons (hrefl a) ih

end Tolerance
