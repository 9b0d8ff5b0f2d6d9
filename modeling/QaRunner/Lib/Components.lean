import Mathlib.Data.List.Infix

/-! Paths as lists of components: where a path leads from a directory, and when neither of two paths
lies in the other. -/
namespace Components

/-- The components of a path text. -/
def components (path : List Char) : List (List Char) := path.splitOn '/'

/-- The components that do not name an entry of a directory. -/
def special : List (List Char) := [[], ['.'], ['.', '.']]

/-- Every component names an entry. -/
def Plain (path : List (List Char)) : Prop := ∀ c ∈ path, c ∉ special

instance (path : List (List Char)) : Decidable (Plain path) :=
  inferInstanceAs (Decidable (∀ c ∈ path, c ∉ special))

/-- Where a path leads from a directory when no component is a symbolic link. -/
def resolve (dir : List (List Char)) : List (List Char) → List (List Char)
  | [] => dir
  | c :: rest =>
    if c = [] ∨ c = ['.'] then resolve dir rest
    else if c = ['.', '.'] then resolve dir.dropLast rest
    else resolve (dir ++ [c]) rest

/-- A path of entries leads below the directory. -/
theorem resolve_of_plain {dir path : List (List Char)} (h : Plain path) :
    resolve dir path = dir ++ path := by
  induction path generalizing dir with
  | nil => rw [resolve, List.append_nil]
  | cons c rest ih =>
    obtain ⟨hc, hrest⟩ := List.forall_mem_cons.mp h
    simp only [special, List.mem_cons, List.not_mem_nil, or_false, not_or] at hc
    rw [resolve, if_neg (by simp [hc]), if_neg hc.2.2, ih hrest, List.append_assoc,
      List.singleton_append]

section
variable {α : Type} {xs ys : List α}

/-- The lists differ at a position that both have. -/
def Diverge (xs ys : List α) : Prop :=
  ∃ (i : ℕ) (x y : α), xs[i]? = some x ∧ ys[i]? = some y ∧ x ≠ y

theorem Diverge.symm (h : Diverge xs ys) : Diverge ys xs := by
  obtain ⟨i, x, y, hx, hy, hne⟩ := h
  exact ⟨i, y, x, hy, hx, hne.symm⟩

theorem Diverge.not_initial (h : Diverge xs ys) : ¬ xs <+: ys := by
  rintro ⟨zs, rfl⟩
  obtain ⟨i, x, y, hx, hy, hne⟩ := h
  obtain ⟨hlt, -⟩ := List.getElem?_eq_some_iff.mp hx
  rw [List.getElem?_append_left hlt, hx] at hy
  exact hne (Option.some.inj hy)

theorem diverge_cons {x : α} : Diverge (x :: xs) (x :: ys) ↔ Diverge xs ys := by
  constructor
  · rintro ⟨i, a, b, ha, hb, hne⟩
    cases i with
    | zero =>
      rw [List.getElem?_cons_zero] at ha hb
      exact absurd (Option.some.inj (ha.symm.trans hb)) hne
    | succ i => exact ⟨i, a, b, ha, hb, hne⟩
  · rintro ⟨i, a, b, ha, hb, hne⟩
    exact ⟨i + 1, a, b, ha, hb, hne⟩

/-- One of two lists continues the other unless they diverge. -/
theorem continues_or_continues (h : ¬ Diverge xs ys) : xs <+: ys ∨ ys <+: xs := by
  induction xs generalizing ys with
  | nil => exact Or.inl List.nil_prefix
  | cons x xs ih =>
    cases ys with
    | nil => exact Or.inr List.nil_prefix
    | cons y ys =>
      have hxy : x = y := by
        by_contra hne
        exact h ⟨0, x, y, rfl, rfl, hne⟩
      subst hxy
      rw [List.prefix_cons_inj, List.prefix_cons_inj]
      exact ih fun hrest => h (diverge_cons.mpr hrest)

theorem diverge_iff : Diverge xs ys ↔ ¬ xs <+: ys ∧ ¬ ys <+: xs := by
  constructor
  · intro h
    exact ⟨h.not_initial, h.symm.not_initial⟩
  · rintro ⟨hx, hy⟩
    by_contra h
    exact (continues_or_continues h).elim hx hy

end

end Components
