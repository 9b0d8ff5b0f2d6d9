import QaRunner.Lib.Keyed
import Mathlib.Data.List.Count

/-! Tables with a primary key: conditional updates, how many rows one matches, and upserts. -/

/-- Rows that differ in their key. -/
structure KeyedTable {α κ : Type} (key : α → κ) where
  rows : List α
  primary : (rows.map key).Nodup

namespace KeyedTable
variable {α κ : Type} [DecidableEq κ] {key : α → κ} {t : KeyedTable key} {p : α → Bool} {f : α → α}
  {a b : α} {k : κ}

/-- The row with a key. -/
def get (t : KeyedTable key) (k : κ) : Option α := t.rows.find? (key · = k)

/-- `UPDATE`: the rows that meet the condition change, their keys apart. -/
def update (t : KeyedTable key) (p : α → Bool) (f : α → α) (hf : ∀ a, key (f a) = key a) :
    KeyedTable key where
  rows := t.rows.map fun a => if p a then f a else a
  primary := by
    have hkeys : (t.rows.map fun a => if p a then f a else a).map key = t.rows.map key := by
      rw [List.map_map]
      apply List.map_congr_left
      intro a _
      dsimp only [Function.comp_apply]
      split
      · exact hf a
      · rfl
    exact hkeys ▸ t.primary

/-- How many rows an update matches. -/
def rowcount (t : KeyedTable key) (p : α → Bool) : ℕ := t.rows.countP p

theorem not_mem_of_get_none (h : t.get k = none) : k ∉ t.rows.map key := by
  intro hmem
  obtain ⟨a, ha, hk⟩ := List.mem_map.mp hmem
  exact Keyed.find_none h a ha hk

/-- `INSERT`, and on a conflict with a stored row `DO UPDATE` of that row. -/
def upsert (t : KeyedTable key) (a : α) (merge : α → α) (hmerge : ∀ b, key (merge b) = key b) :
    KeyedTable key :=
  if h : t.get (key a) = none then
    { rows := t.rows ++ [a]
      primary := by
        rw [List.map_append, List.map_singleton, List.nodup_append]
        refine ⟨t.primary, List.nodup_singleton _, ?_⟩
        rintro j hj _ hk rfl
        rw [List.mem_singleton.mp hk] at hj
        exact not_mem_of_get_none h hj }
  else t.update (fun b => key b = key a) merge hmerge

theorem key_of_get (h : t.get k = some a) : key a = k := (Keyed.find_some h).2

theorem mem_of_get (h : t.get k = some a) : a ∈ t.rows := (Keyed.find_some h).1

theorem get_of_mem (h : a ∈ t.rows) : t.get (key a) = some a := Keyed.find_of_mem t.primary h

theorem get_update (hf : ∀ a, key (f a) = key a) :
    (t.update p f hf).get k = (t.get k).map fun a => if p a then f a else a := by
  have hkey : (fun b => decide (key b = k)) ∘ (fun a => if p a then f a else a) =
      fun a => decide (key a = k) := by
    funext a
    dsimp only [Function.comp_apply]
    split
    · rw [hf]
    · rfl
  unfold update get
  rw [List.find?_map, hkey]

/-- An update on a condition of one row matches that row or none. -/
theorem rowcount_key : t.rowcount (fun a => key a = k && p a) =
    if (t.get k).any p then 1 else 0 := by
  have hcount : t.rowcount (fun a => key a = k && p a) =
      (t.rows.filter fun a => key a = k).countP p := by
    rw [rowcount, List.countP_filter]
    simp only [Bool.and_comm]
  rw [hcount]
  cases h : t.get k with
  | none =>
    have hnone : t.rows.filter (fun a => key a = k) = [] := by
      rw [List.filter_eq_nil_iff]
      intro a ha
      simpa using Keyed.find_none h a ha
    rw [hnone]
    rfl
  | some a =>
    have hk := key_of_get h
    subst hk
    rw [Keyed.filter_of_mem t.primary (mem_of_get h), List.countP_singleton, Option.any_some]

theorem get_upsert_self {merge : α → α} (hmerge : ∀ b, key (merge b) = key b) :
    (t.upsert a merge hmerge).get (key a) = some ((t.get (key a)).elim a merge) := by
  unfold upsert
  split
  · next h =>
    rw [h, get, List.find?_append]
    rw [get] at h
    rw [h]
    simp
  · next h =>
    obtain ⟨b, hb⟩ := Option.ne_none_iff_exists'.mp h
    rw [get_update, hb]
    simp [key_of_get hb]

theorem get_upsert_of_ne {merge : α → α} (hmerge : ∀ b, key (merge b) = key b) (h : k ≠ key a) :
    (t.upsert a merge hmerge).get k = t.get k := by
  unfold upsert
  split
  · rw [get, List.find?_append]
    have hlast : List.find? (fun b => decide (key b = k)) [a] = none := by simp [h.symm]
    rw [hlast, Option.or_none]
    rfl
  · rw [get_update]
    cases hb : t.get k with
    | none => rfl
    | some b =>
      have hne : key b ≠ key a := by
        rw [key_of_get hb]
        exact h
      simp [hne]

theorem nodup_push (h : t.get (key a) = none) : ((t.rows ++ [a]).map key).Nodup := by
  rw [List.map_append, List.map_singleton, List.nodup_append_comm]
  exact List.nodup_cons.mpr ⟨not_mem_of_get_none h, t.primary⟩

/-- `INSERT` of a row with a new key. -/
def push (t : KeyedTable key) (a : α) (h : t.get (key a) = none) : KeyedTable key where
  rows := t.rows ++ [a]
  primary := nodup_push h

/-- `DELETE`: the rows that meet the condition go. -/
def delete (t : KeyedTable key) (p : α → Bool) : KeyedTable key where
  rows := t.rows.filter fun a => !p a
  primary := t.primary.sublist (List.filter_sublist.map key)

theorem get_push (h : t.get (key a) = none) :
    (t.push a h).get k = if k = key a then some a else t.get k := by
  rw [get, push, List.find?_append]
  by_cases hk : k = key a
  · subst hk
    rw [get] at h
    simp [h]
  · have hlast : List.find? (fun b => decide (key b = k)) [a] = none := by simp [Ne.symm hk]
    rw [hlast, Option.or_none, if_neg hk]
    rfl

theorem get_eq_none_iff : t.get k = none ↔ ∀ a ∈ t.rows, key a ≠ k := by
  rw [get, List.find?_eq_none]
  simp only [decide_eq_true_eq]

omit [DecidableEq κ] in
theorem mem_delete : a ∈ (t.delete p).rows ↔ a ∈ t.rows ∧ p a = false := by
  rw [delete, List.mem_filter, Bool.not_eq_true']

theorem get_delete : (t.delete p).get k = (t.get k).filter fun a => !p a := by
  cases h : t.get k with
  | none =>
    rw [get_eq_none_iff] at h
    exact get_eq_none_iff.mpr fun a ha => h a (mem_delete.mp ha).1
  | some a =>
    rw [Option.filter_some]
    split
    · next hkept =>
      have hmem : a ∈ (t.delete p).rows := mem_delete.mpr ⟨mem_of_get h, by simpa using hkept⟩
      rw [← key_of_get h]
      exact get_of_mem hmem
    · next hgone =>
      rw [get_eq_none_iff]
      intro b hb hkey
      obtain ⟨hb, hkept⟩ := mem_delete.mp hb
      have hsame : b = a := Keyed.eq_of_key t.primary hb (mem_of_get h)
        (hkey.trans (key_of_get h).symm)
      rw [hsame] at hkept
      exact hgone (by simp [hkept])

end KeyedTable
