import Mathlib.Algebra.Order.Ring.Int
import Mathlib.Data.List.Basic

/-! A log written by one holder of a fence at a time: the last entry may be amended, and a new
entry raises the fence. -/
namespace FencedLog

variable {α : Type}

structure Log (α : Type) where
  fence : ℤ
  entries : List α

inductive Step : Log α → Log α → Prop
  | keep (l : Log α) : Step l l
  | amend (fence : ℤ) (init : List α) (a b : α) :
    Step ⟨fence, init ++ [a]⟩ ⟨fence, init ++ [b]⟩
  | append (fence : ℤ) (entries : List α) (a : α) :
    Step ⟨fence, entries⟩ ⟨fence + 1, entries ++ [a]⟩

/-- The fence and the length only grow, and entries that were superseded do not change. -/
structure Extends (l l' : Log α) : Prop where
  fence : l.fence ≤ l'.fence
  length : l.entries.length ≤ l'.entries.length
  frozen : ∀ i : ℕ, i + 1 < l.entries.length → l'.entries[i]? = l.entries[i]?

theorem Extends.refl (l : Log α) : Extends l l := ⟨le_refl _, le_refl _, fun _ _ => rfl⟩

theorem Extends.trans {l m n : Log α} (h : Extends l m) (h' : Extends m n) : Extends l n where
  fence := le_trans h.fence h'.fence
  length := le_trans h.length h'.length
  frozen i hi := by
    have hlen := h.length
    rw [h'.frozen i (by omega), h.frozen i hi]

theorem Step.extends {l l' : Log α} (h : Step l l') : Extends l l' := by
  cases h with
  | keep => exact Extends.refl l
  | amend fence init a b =>
    refine ⟨le_refl _, by simp, fun i hi => ?_⟩
    simp only [List.length_append, List.length_singleton] at hi
    rw [List.getElem?_append_left (by omega), List.getElem?_append_left (by omega)]
  | append fence entries a =>
    refine ⟨by simp, by simp, fun i hi => ?_⟩
    exact List.getElem?_append_left (by simp only at hi; omega)

end FencedLog
