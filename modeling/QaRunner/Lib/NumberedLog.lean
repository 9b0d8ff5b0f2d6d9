import QaRunner.Lib.Sorting
import Mathlib.Data.List.Nodup
import Mathlib.Algebra.Order.Ring.Int

/-! Logs whose entries carry an id and a number, the numbers counting up from one. -/
namespace NumberedLog

variable {α ι : Type} {ident : α → ι} {no : α → ℤ} {log w : List α} {e x y : α}

/-- Entry `i` has number `i + 1`, and no id occurs twice. -/
structure Numbered (ident : α → ι) (no : α → ℤ) (log : List α) : Prop where
  counts : ∀ i (h : i < log.length), no log[i] = i + 1
  ids : (log.map ident).Nodup

theorem numbered_nil : Numbered ident no [] := ⟨nofun, List.nodup_nil⟩

/-- The next entry has the next number and a fresh id. -/
theorem Numbered.append (h : Numbered ident no log) (hno : no e = log.length + 1)
    (hid : ∀ x ∈ log, ident x ≠ ident e) : Numbered ident no (log ++ [e]) where
  counts i hi := by
    rcases Nat.lt_or_ge i log.length with hlt | hge
    · rw [List.getElem_append_left hlt]
      exact h.counts i hlt
    · have hlast : i = log.length := by
        simp only [List.length_append, List.length_singleton] at hi
        omega
      subst hlast
      rw [List.getElem_concat_length rfl]
      exact hno
  ids := by
    rw [List.map_append, List.map_singleton]
    refine List.Nodup.append h.ids (List.nodup_singleton _) ?_
    intro i hi hmem
    rw [List.mem_singleton] at hmem
    subst hmem
    obtain ⟨x, hx, hsame⟩ := List.mem_map.mp hi
    exact hid x hx hsame

/-- The number of an entry is its place. -/
theorem Numbered.getElem?_of_mem (h : Numbered ident no log) (hx : x ∈ log) :
    ∃ i : ℕ, no x = i + 1 ∧ log[i]? = some x := by
  obtain ⟨i, hi, rfl⟩ := List.mem_iff_getElem.mp hx
  exact ⟨i, h.counts i hi, List.getElem?_eq_getElem hi⟩

theorem Numbered.eq_of_no (h : Numbered ident no log) (hx : x ∈ log) (hy : y ∈ log)
    (hno : no x = no y) : x = y := by
  obtain ⟨i, hi, hxi⟩ := h.getElem?_of_mem hx
  obtain ⟨j, hj, hyj⟩ := h.getElem?_of_mem hy
  have hij : i = j := by
    omega
  subst hij
  exact Option.some.inj (hxi.symm.trans hyj)

/-- Two entries that share the id or the number are one. -/
theorem Numbered.eq_of_clash (h : Numbered ident no log) (hx : x ∈ log) (hy : y ∈ log)
    (hclash : ident x = ident y ∨ no x = no y) : x = y := by
  rcases hclash with hid | hno
  · exact List.inj_on_of_nodup_map h.ids hx hy hid
  · exact h.eq_of_no hx hy hno

theorem Numbered.no_last (h : Numbered ident no log) (hlast : log.getLast? = some x) :
    no x = log.length := by
  obtain ⟨init, rfl⟩ := List.getLast?_eq_some_iff.mp hlast
  have hno := h.counts init.length (by simp)
  rw [List.getElem_concat_length rfl] at hno
  rw [hno, List.length_append]
  rfl

/-- A log that takes its entries from another is a first part of it. -/
theorem Numbered.isPrefix (h : Numbered ident no log) (hw : ∀ i (h : i < w.length), no w[i] = i + 1)
    (hsub : ∀ x ∈ log, x ∈ w) : log <+: w := by
  rw [List.prefix_iff_getElem?]
  intro i hi
  obtain ⟨j, hj, hji⟩ := List.mem_iff_getElem.mp (hsub _ (List.getElem_mem hi))
  have hno := h.counts i hi
  rw [← hji, hw j hj] at hno
  have hij : j = i := by
    omega
  subst hij
  rw [← hji, List.getElem?_eq_getElem hj]

/-- Numbers that start at one and leave no gap, each taken once, count a log in their order. -/
theorem numbered_sortOn {xs : List α} {rank : α → ℤ} (hrank : ∀ a b, rank a ≤ rank b → no a ≤ no b)
    (hd : (xs.map no).Nodup) (hpos : ∀ x ∈ xs, 1 ≤ no x)
    (hclosed : ∀ x ∈ xs, no x ≠ 1 → ∃ y ∈ xs, no y + 1 = no x) :
    Numbered no no (Sorting.sortOn rank xs) := by
  have hnodup : ((Sorting.sortOn rank xs).map no).Nodup :=
    (((Sorting.sortOn_perm rank xs).map no).nodup_iff).mpr hd
  have hmem : ∀ {x}, x ∈ Sorting.sortOn rank xs ↔ x ∈ xs := Sorting.mem_sortOn
  have hle := (Sorting.pairwise_sortOn rank xs).imp fun {a b} => hrank a b
  generalize Sorting.sortOn rank xs = log at hnodup hmem hle
  have hlt : ∀ i j (hi : i < log.length) (hj : j < log.length), i < j → no log[i] < no log[j] := by
    have hne := List.pairwise_map.mp hnodup
    exact List.pairwise_iff_getElem.mp ((hle.and hne).imp fun h => lt_of_le_of_ne h.1 h.2)
  refine ⟨fun i => ?_, hnodup⟩
  induction i using Nat.strong_induction_on with
  | _ i ih =>
    intro hi
    have hge : (i : ℤ) + 1 ≤ no log[i] := by
      cases i with
      | zero =>
        have hone := hpos _ (hmem.mp (List.getElem_mem hi))
        simpa using hone
      | succ i =>
        have hprior := ih i (Nat.lt_succ_self i) (by omega)
        have hless := hlt i (i + 1) (by omega) hi (Nat.lt_succ_self i)
        omega
    by_cases hone : no log[i] = 1
    · omega
    -- the element before it in number stands at an earlier place, which is its number
    obtain ⟨y, hy, hnext⟩ := hclosed _ (hmem.mp (List.getElem_mem hi)) hone
    obtain ⟨j, hj, rfl⟩ := List.mem_iff_getElem.mp (hmem.mpr hy)
    rcases Nat.lt_or_ge j i with hji | hij
    · have hplace := ih j hji hj
      omega
    · rcases Nat.eq_or_lt_of_le hij with heq | hgt
      · subst heq
        omega
      · have hless := hlt i j hi hj hgt
        omega

end NumberedLog
