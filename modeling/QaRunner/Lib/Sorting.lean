import Mathlib.Data.List.Sort
import Mathlib.Data.List.Perm.Basic

/-! Sorting by a key, lists that are already in order, and uniqueness of the sorted list
when the keys are distinct. -/
namespace Sorting

variable {α κ : Type} [LinearOrder κ] {key : α → κ} {xs ys : List α}

/-- The stable sort by a key. -/
def sortOn (key : α → κ) (xs : List α) : List α := xs.insertionSort fun a b => key a ≤ key b

@[simp] theorem sortOn_singleton (key : α → κ) (a : α) : sortOn key [a] = [a] := rfl

theorem sortOn_perm (key : α → κ) (xs : List α) : (sortOn key xs).Perm xs :=
  List.perm_insertionSort _ _

theorem mem_sortOn {a : α} : a ∈ sortOn key xs ↔ a ∈ xs := (sortOn_perm key xs).mem_iff

theorem pairwise_sortOn (key : α → κ) (xs : List α) :
    (sortOn key xs).Pairwise fun a b => key a ≤ key b := by
  have : Std.Total fun a b : α => key a ≤ key b := ⟨fun a b => le_total (key a) (key b)⟩
  have : IsTrans α fun a b => key a ≤ key b := ⟨fun _ _ _ => le_trans⟩
  exact List.pairwise_insertionSort _ _

theorem sortOn_eq_self (h : xs.Pairwise fun a b => key a ≤ key b) : sortOn key xs = xs :=
  List.Pairwise.insertionSort_eq h

theorem sortOn_of_ordered (h : xs.map key = sortOn id (xs.map key)) : sortOn key xs = xs := by
  apply sortOn_eq_self
  have hkeys := pairwise_sortOn id (xs.map key)
  rw [← h] at hkeys
  exact List.pairwise_map.mp hkeys

/-- In order, and no key twice. -/
theorem pairwise_lt_of_sorted (h : xs = sortOn key xs) (hd : (xs.map key).Nodup) :
    xs.Pairwise fun a b => key a < key b := by
  have hle := pairwise_sortOn key xs
  rw [← h] at hle
  have hne : xs.Pairwise fun a b => key a ≠ key b := List.pairwise_map.mp hd
  exact (hle.and hne).imp fun hab => lt_of_le_of_ne hab.1 hab.2

/-- Two arrangements of the same elements, both ascending in a key that separates them. -/
theorem eq_of_perm_of_inj (hp : xs.Perm ys) (hinj : ∀ a ∈ xs, ∀ b ∈ xs, key a = key b → a = b)
    (hx : xs.Pairwise fun a b => key a ≤ key b) (hy : ys.Pairwise fun a b => key a ≤ key b) :
    xs = ys := by
  apply hp.eq_of_pairwise _ hx hy
  intro a b ha hb hab hba
  exact hinj a ha b (hp.mem_iff.mpr hb) (le_antisymm hab hba)

theorem eq_of_perm (hp : xs.Perm ys) (hd : (xs.map key).Nodup)
    (hx : xs.Pairwise fun a b => key a ≤ key b) (hy : ys.Pairwise fun a b => key a ≤ key b) :
    xs = ys :=
  eq_of_perm_of_inj hp (fun _ ha _ hb => List.inj_on_of_nodup_map hd ha hb) hx hy

/-- A sort by a key that separates the elements does not see their order. -/
theorem sortOn_eq_of_inj (hp : xs.Perm ys) (hinj : ∀ a ∈ xs, ∀ b ∈ xs, key a = key b → a = b) :
    sortOn key xs = sortOn key ys := by
  apply eq_of_perm_of_inj (((sortOn_perm key xs).trans hp).trans (sortOn_perm key ys).symm) _
    (pairwise_sortOn key xs) (pairwise_sortOn key ys)
  intro a ha b hb
  exact hinj a (mem_sortOn.mp ha) b (mem_sortOn.mp hb)

theorem sortOn_eq_of_perm (hp : xs.Perm ys) (hd : (xs.map key).Nodup) :
    sortOn key xs = sortOn key ys :=
  sortOn_eq_of_inj hp fun _ ha _ hb => List.inj_on_of_nodup_map hd ha hb

theorem sortOn_id_of_perm [LinearOrder α] (hp : xs.Perm ys) : sortOn id xs = sortOn id ys :=
  sortOn_eq_of_inj hp fun _ _ _ _ h => h

/-- Keys that agree on the elements sort them alike. -/
theorem sortOn_congr {key' : α → κ} (hp : xs.Perm ys) (hkey : ∀ a ∈ xs, key a = key' a)
    (hinj : ∀ a ∈ xs, ∀ b ∈ xs, key a = key b → a = b) : sortOn key xs = sortOn key' ys := by
  have hsorted : (sortOn key' ys).Pairwise fun a b => key a ≤ key b := by
    refine (pairwise_sortOn key' ys).imp_of_mem fun ha hb hle => ?_
    rw [hkey _ (hp.mem_iff.mpr (mem_sortOn.mp ha)), hkey _ (hp.mem_iff.mpr (mem_sortOn.mp hb))]
    exact hle
  apply eq_of_perm_of_inj (((sortOn_perm key xs).trans hp).trans (sortOn_perm key' ys).symm) _
    (pairwise_sortOn key xs) hsorted
  intro a ha b hb
  exact hinj a (mem_sortOn.mp ha) b (mem_sortOn.mp hb)

/-- Elements that are added with keys of their own leave the others in their order. -/
theorem sortOn_sublist (hx : (xs.map key).Nodup) (hy : (ys.map key).Nodup) (h : xs ⊆ ys) :
    (sortOn key xs).Sublist (sortOn key ys) := by
  have hlt : ∀ zs : List α, (zs.map key).Nodup →
      (sortOn key zs).Pairwise fun a b => key a < key b := by
    intro zs hz
    have hne := List.pairwise_map.mp ((((sortOn_perm key zs).map key).nodup_iff).mpr hz)
    exact ((pairwise_sortOn key zs).and hne).imp fun hab => lt_of_le_of_ne hab.1 hab.2
  have : Std.Antisymm fun a b : α => key a < key b :=
    ⟨fun a b hab hba => absurd hba (lt_asymm hab)⟩
  apply List.sublist_of_subperm_of_pairwise _ (hlt xs hx) (hlt ys hy)
  apply List.subperm_of_subset ((((sortOn_perm key xs).map key).nodup_iff).mpr hx).of_map
  intro a ha
  exact mem_sortOn.mpr (h (mem_sortOn.mp ha))

/-- What treats all lists with a key twice alike does not see an order behind the sort. -/
theorem apply_sortOn_of_perm {β : Type} (key : α → κ) {f : List α → β} {b : β}
    (hf : ∀ given, ¬ (given.map key).Nodup → f given = b) (hp : xs.Perm ys) :
    f (sortOn key xs) = f (sortOn key ys) := by
  by_cases hd : (xs.map key).Nodup
  · rw [sortOn_eq_of_perm hp hd]
  · have hsorted : ∀ given : List α, given.Perm xs → f (sortOn key given) = b := by
      intro given hgiven
      apply hf
      rwa [(((sortOn_perm key given).trans hgiven).map key).nodup_iff]
    rw [hsorted xs (.refl _), hsorted ys hp.symm]

/-- The sort is stable: the first element stays the first one of its key. -/
theorem find_sortOn_cons (a : α) (xs : List α) :
    (sortOn key (a :: xs)).find? (key · = key a) = some a := by
  have hinsert : ∀ ys : List α,
      (ys.orderedInsert (fun b c => key b ≤ key c) a).find? (key · = key a) = some a := by
    intro ys
    induction ys with
    | nil => simp
    | cons b ys ih =>
      rw [List.orderedInsert_cons]
      split
      · simp
      · next hle =>
        have hne : key b ≠ key a := fun h => hle h.ge
        rw [List.find?_cons_of_neg (by simpa using hne), ih]
  exact hinsert _

end Sorting
