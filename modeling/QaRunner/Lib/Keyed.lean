import Mathlib.Data.List.Nodup
import Mathlib.Data.List.Pairwise
import Mathlib.Data.List.Perm.Basic

/-! Lists whose elements carry distinct keys: lookups, positions, the last element, and lists
compared as sets. -/
namespace Keyed

variable {α κ : Type} {key : α → κ} {xs : List α} {x y : α} {k : κ}

theorem eq_of_key (h : (xs.map key).Nodup) (hx : x ∈ xs) (hy : y ∈ xs) (hk : key x = key y) :
    x = y := List.inj_on_of_nodup_map h hx hy hk

/-- A key names one position. -/
theorem index_eq {i j : ℕ} (h : (xs.map key).Nodup) (hi : xs[i]? = some x) (hj : xs[j]? = some y)
    (hk : key x = key y) : i = j := by
  obtain ⟨hlen, _⟩ := List.getElem?_eq_some_iff.mp hi
  apply (List.getElem?_inj (by simpa using hlen) h).mp
  simp [hi, hj, hk]

/-- The element with the key of the last element is the last element. -/
theorem index_getLast {i : ℕ} (h : (xs.map key).Nodup) (hi : xs[i]? = some x)
    (hlast : (xs.map key).getLast? = some (key x)) : i + 1 = xs.length := by
  obtain ⟨hlen, _⟩ := List.getElem?_eq_some_iff.mp hi
  rw [List.getLast?_eq_getElem?, List.length_map, List.getElem?_map,
    Option.map_eq_some_iff] at hlast
  obtain ⟨last, hget, hk⟩ := hlast
  have := index_eq h hi hget hk.symm
  omega

/-- What is owned once has one owner. -/
theorem owner_eq {β : Type} {f : α → List β} {b : β} (h : (xs.flatMap f).Nodup) (hx : x ∈ xs)
    (hy : y ∈ xs) (hbx : b ∈ f x) (hby : b ∈ f y) : x = y := by
  by_contra hne
  have : Std.Symm (Function.onFun List.Disjoint f) := ⟨fun _ _ h _ hb hb' => h hb' hb⟩
  have hdisjoint : List.Disjoint (f x) (f y) := (List.nodup_flatMap.mp h).2.forall hx hy hne
  exact hdisjoint hbx hby

/-- The lists have the same elements, as sets built from them are compared. -/
def SameElements (xs ys : List α) : Prop := (∀ x ∈ xs, x ∈ ys) ∧ ∀ y ∈ ys, y ∈ xs

instance [DecidableEq α] {ys : List α} : Decidable (SameElements xs ys) :=
  inferInstanceAs (Decidable (_ ∧ _))

/-- An element that was there already adds nothing. -/
theorem mem_append_cons {ys : List α} (h : x ∈ xs) : y ∈ xs ++ x :: ys ↔ y ∈ xs ++ ys := by
  rw [List.mem_append, List.mem_append, List.mem_cons]
  constructor
  · rintro (hy | rfl | hy)
    · exact Or.inl hy
    · exact Or.inl h
    · exact Or.inr hy
  · rintro (hy | hy)
    · exact Or.inl hy
    · exact Or.inr (Or.inr hy)

theorem SameElements.mem_iff {ys : List α} (h : SameElements xs ys) : x ∈ xs ↔ x ∈ ys :=
  ⟨h.1 x, h.2 x⟩

theorem SameElements.perm {ys : List α} (h : SameElements xs ys) (hx : xs.Nodup)
    (hy : ys.Nodup) : xs.Perm ys :=
  (List.perm_ext_iff_of_nodup hx hy).mpr fun _ => h.mem_iff

/-- Arrangements of the same elements, whose distinct keys stand in one order, are equal. -/
theorem eq_of_perm_of_keys {ys : List α} (hperm : xs.Perm ys) (hkeys : xs.map key = ys.map key)
    (h : (xs.map key).Nodup) : xs = ys := by
  induction xs generalizing ys with
  | nil => exact (List.perm_nil.mp hperm.symm).symm
  | cons x xs ih =>
    rcases ys with _ | ⟨y, ys⟩
    · exact absurd hperm.length_eq (by simp)
    · obtain ⟨hkey, hrest⟩ := List.cons.inj hkeys
      have hmem : y ∈ x :: xs := hperm.mem_iff.mpr List.mem_cons_self
      have heq : x = y := eq_of_key h List.mem_cons_self hmem hkey
      rw [heq] at hperm
      rw [heq, ih hperm.cons_inv hrest (List.nodup_cons.mp h).2]

/-- Lists of distinct keys that agree in their keys agree in their elements. -/
theorem perm_of_keys {ys : List α} (hmem : ∀ x ∈ xs, x ∈ ys) (h : (ys.map key).Nodup)
    (hkeys : (xs.map key).Perm (ys.map key)) : xs.Perm ys := by
  have hx : xs.Nodup := (hkeys.nodup_iff.mpr h).of_map key
  rw [List.perm_ext_iff_of_nodup hx (h.of_map key)]
  intro y
  constructor
  · exact hmem y
  · intro hy
    obtain ⟨x, hx, hk⟩ := List.mem_map.mp (hkeys.mem_iff.mpr (List.mem_map_of_mem hy))
    rwa [← eq_of_key h (hmem x hx) hy hk]

/-- A search that only finds elements with the key of `x` finds `x`. -/
theorem find_of_key {q : α → Prop} [DecidablePred q] (h : (xs.map key).Nodup) (hx : x ∈ xs)
    (hqx : q x) (hq : ∀ y, q y → key y = key x) : xs.find? (fun y => q y) = some x := by
  have hsome : (xs.find? fun y => q y).isSome :=
    List.find?_isSome.mpr ⟨x, hx, decide_eq_true hqx⟩
  obtain ⟨y, hy⟩ := Option.isSome_iff_exists.mp hsome
  have hqy : q y := by simpa using List.find?_some hy
  rw [hy, eq_of_key h (List.mem_of_find?_eq_some hy) hx (hq y hqy)]

variable [DecidableEq κ]

/-- The value a key has, once the given one is stored for a key that has none. -/
def setdefault (d : List (κ × α)) (k : κ) (a : α) : α × List (κ × α) :=
  match d.find? (·.1 = k) with
  | some p => (p.2, d)
  | none => (a, d ++ [(k, a)])

theorem find_some (h : xs.find? (fun a => key a = k) = some x) : x ∈ xs ∧ key x = k :=
  ⟨List.mem_of_find?_eq_some h, by simpa using List.find?_some h⟩

/-- A key that is stored keeps its value. -/
theorem setdefault_of_some {d : List (κ × α)} {p : κ × α} {a : α}
    (h : d.find? (·.1 = k) = some p) : setdefault d k a = (p.2, d) := by
  rw [setdefault, h]

/-- The key is stored with the value that is answered. -/
theorem find_setdefault (d : List (κ × α)) (k : κ) (a : α) :
    (setdefault d k a).2.find? (·.1 = k) = some (k, (setdefault d k a).1) := by
  cases h : d.find? (·.1 = k) with
  | some p =>
    rw [setdefault_of_some h, h]
    have hk : p.1 = k := by simpa using List.find?_some h
    rw [← hk]
  | none => simp [setdefault, h]

/-- What other keys hold stays. -/
theorem find_setdefault_of_some {d : List (κ × α)} {j : κ} {p : κ × α} (k : κ) (a : α)
    (h : d.find? (·.1 = j) = some p) : (setdefault d k a).2.find? (·.1 = j) = some p := by
  unfold setdefault
  split
  · exact h
  · rw [List.find?_append, h]
    rfl

theorem find_none (h : xs.find? (fun a => key a = k) = none) : ∀ a ∈ xs, key a ≠ k := by
  simpa using h

theorem find_of_mem (h : (xs.map key).Nodup) (hx : x ∈ xs) :
    xs.find? (fun a => key a = key x) = some x :=
  find_of_key h hx rfl fun _ hy => hy

theorem filter_of_mem (h : (xs.map key).Nodup) (hx : x ∈ xs) :
    xs.filter (fun a => key a = key x) = [x] := by
  have hnodup := (h.of_map key).filter fun a => key a = key x
  apply List.perm_singleton.mp
  apply (List.perm_ext_iff_of_nodup hnodup (List.nodup_singleton x)).mpr
  intro a
  rw [List.mem_filter, decide_eq_true_iff, List.mem_singleton]
  constructor
  · rintro ⟨ha, hk⟩
    exact eq_of_key h ha hx hk
  · rintro rfl
    exact ⟨hx, rfl⟩

/-- After replacing the element with some key, that key finds the replacement. -/
theorem find_replace (hx : x ∈ xs) (hy : key y = key x) :
    (xs.map fun a => if key a = key y then y else a).find? (fun a => key a = key y) = some y := by
  have hsome : ((xs.map fun a => if key a = key y then y else a).find?
      fun a => key a = key y).isSome := by
    refine List.find?_isSome.mpr ⟨y, List.mem_map.mpr ⟨x, hx, if_pos hy.symm⟩, decide_eq_true rfl⟩
  obtain ⟨z, hfind⟩ := Option.isSome_iff_exists.mp hsome
  obtain ⟨hz, hk⟩ := find_some hfind
  obtain ⟨a, -, ha⟩ := List.mem_map.mp hz
  rw [hfind]
  split at ha
  · rw [ha]
  · next hne => exact absurd (ha ▸ hk) hne

theorem find_reverse_some (h : xs.reverse.find? (fun a => key a = k) = some x) :
    x ∈ xs ∧ key x = k := by
  obtain ⟨hx, hk⟩ := find_some h
  exact ⟨List.mem_reverse.mp hx, hk⟩

/-- Taking the elements key by key takes all of them. -/
theorem flatMap_filter_perm (key : α → κ) {keys : List κ} (hkeys : keys.Nodup)
    (h : ∀ a ∈ xs, key a ∈ keys) : (keys.flatMap fun k => xs.filter (key · = k)).Perm xs := by
  induction keys generalizing xs with
  | nil =>
    cases xs with
    | nil => exact .nil
    | cons a xs => exact absurd (h a List.mem_cons_self) List.not_mem_nil
  | cons k keys ih =>
    obtain ⟨hk, hkeys⟩ := List.nodup_cons.mp hkeys
    have hothers : ∀ a ∈ xs.filter (¬ key · = k), key a ∈ keys := by
      intro a ha
      obtain ⟨hmem, hne⟩ := List.mem_filter.mp ha
      exact (List.mem_cons.mp (h a hmem)).resolve_left (of_decide_eq_true hne)
    -- the later keys find the same elements among those without the first key
    have hlater : (keys.flatMap fun j => (xs.filter (¬ key · = k)).filter (key · = j)) =
        keys.flatMap fun j => xs.filter (key · = j) := by
      apply List.flatMap_congr
      intro j hj
      rw [List.filter_filter]
      apply List.filter_congr
      intro a _
      by_cases hkey : key a = j
      · have hne : key a ≠ k := fun heq => hk (heq ▸ hkey ▸ hj)
        simp [hkey, hkey ▸ hne]
      · simp [hkey]
    have hrest := ih hkeys hothers
    rw [hlater] at hrest
    rw [List.flatMap_cons]
    refine (hrest.append_left _).trans ?_
    have hsplit := List.filter_append_perm (fun a => decide (key a = k)) xs
    simpa only [decide_not] using hsplit

/-- The elements of one key among those collected key by key. -/
theorem filter_flatMap {keys : List κ} {f : κ → List α} (hkeys : keys.Nodup)
    (hf : ∀ j ∈ keys, ∀ a ∈ f j, key a = j) (hk : k ∈ keys) :
    (keys.flatMap f).filter (key · = k) = f k := by
  induction keys with
  | nil => cases hk
  | cons j keys ih =>
    obtain ⟨hj, hkeys⟩ := List.nodup_cons.mp hkeys
    obtain ⟨hfirst, hrest⟩ := List.forall_mem_cons.mp hf
    rw [List.flatMap_cons, List.filter_append]
    by_cases heq : j = k
    · subst heq
      have hsame : (f j).filter (key · = j) = f j :=
        List.filter_eq_self.mpr fun a ha => decide_eq_true (hfirst a ha)
      have hnone : (keys.flatMap f).filter (key · = j) = [] := by
        apply List.filter_eq_nil_iff.mpr
        intro a ha hkey
        obtain ⟨i, hi, ha⟩ := List.mem_flatMap.mp ha
        have hij : i = j := (hrest i hi a ha).symm.trans (of_decide_eq_true hkey)
        exact hj (hij ▸ hi)
      rw [hsame, hnone, List.append_nil]
    · have hnone : (f j).filter (key · = k) = [] := by
        apply List.filter_eq_nil_iff.mpr
        intro a ha hkey
        exact heq ((hfirst a ha).symm.trans (of_decide_eq_true hkey))
      have hin : k ∈ keys := (List.mem_cons.mp hk).resolve_left fun h => heq h.symm
      rw [hnone, List.nil_append, ih hkeys hrest hin]

end Keyed
