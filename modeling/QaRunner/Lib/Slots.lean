import Mathlib.Algebra.BigOperators.Group.List.Basic
import Mathlib.Algebra.Ring.Nat
import Mathlib.Data.List.Perm.Basic

/-! A list of places one of which changes what it holds. -/
namespace Slots

variable {α β : Type} {places : List α} {k : ℕ} {a b : α}

/-- What the places count together changes by what the one counts. -/
theorem sum_set (count : α → ℕ) (h : places[k]? = some a) :
    ((places.set k b).map count).sum + count a = (places.map count).sum + count b := by
  induction places generalizing k with
  | nil => cases h
  | cons c places ih =>
    cases k with
    | zero =>
      cases h
      simp only [List.set_cons_zero, List.map_cons, List.sum_cons]
      omega
    | succ k =>
      have hrest := ih h
      simp only [List.set_cons_succ, List.map_cons, List.sum_cons]
      omega

/-- What the places hold together changes by what the one holds. -/
theorem flatMap_set_perm (items : α → List β) (h : places[k]? = some a) :
    ((places.set k b).flatMap items ++ items a).Perm (places.flatMap items ++ items b) := by
  induction places generalizing k with
  | nil => cases h
  | cons c places ih =>
    cases k with
    | zero =>
      cases h
      simp only [List.set_cons_zero, List.flatMap_cons, List.append_assoc]
      have hfront : (items b ++ (places.flatMap items ++ items a)).Perm
          (places.flatMap items ++ items a ++ items b) := List.perm_append_comm
      have hback : (places.flatMap items ++ items a ++ items b).Perm
          (items a ++ (places.flatMap items ++ items b)) := by
        rw [List.append_assoc]
        exact List.perm_append_comm_assoc _ _ _
      exact hfront.trans hback
    | succ k =>
      have hrest := ih h
      simp only [List.set_cons_succ, List.flatMap_cons, List.append_assoc]
      exact hrest.append_left (items c)

end Slots
