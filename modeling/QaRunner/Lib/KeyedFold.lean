import Mathlib.Data.List.Basic
import Mathlib.Data.List.Dedup
import Mathlib.Data.List.Induction
import Mathlib.Data.List.Pairwise
import Mathlib.Logic.Function.Basic

/-! Folding records into one entry a key, with the keys in the order they were first seen. -/

/-- One entry a key, and the keys in the order they were first seen. -/
structure KeyedFold (κ ε : Type) where
  order : List κ
  entries : κ → Option ε

namespace KeyedFold
variable {κ ε ρ : Type} [DecidableEq κ] {key : ρ → κ} {start : ε} {step : ε → ρ → ε}
  {s : KeyedFold κ ε} {rs : List ρ} {r : ρ} {j k : κ}

def empty : KeyedFold κ ε := ⟨[], fun _ => none⟩

/-- Change the entry of a key, a new one when the key was not seen before. -/
def change (s : KeyedFold κ ε) (k : κ) (start : ε) (f : ε → ε) : KeyedFold κ ε where
  order := if (s.entries k).isSome then s.order else s.order ++ [k]
  entries := Function.update s.entries k (some (f ((s.entries k).getD start)))

/-- Every record changes the entry of its own key. -/
def run (key : ρ → κ) (start : ε) (step : ε → ρ → ε) (s : KeyedFold κ ε) (rs : List ρ) :
    KeyedFold κ ε :=
  rs.foldl (fun s r => s.change (key r) start (step · r)) s

@[simp] theorem run_nil : run key start step s [] = s := rfl

@[simp] theorem run_cons : run key start step s (r :: rs) =
    run key start step (s.change (key r) start (step · r)) rs := rfl

theorem run_concat : run key start step s (rs ++ [r]) =
    (run key start step s rs).change (key r) start (step · r) := by
  rw [run, List.foldl_append]
  rfl

theorem change_entries_self (f : ε → ε) :
    (s.change k start f).entries k = some (f ((s.entries k).getD start)) :=
  Function.update_self ..

theorem change_entries_of_ne (f : ε → ε) (h : j ≠ k) :
    (s.change k start f).entries j = s.entries j := Function.update_of_ne h ..

/-- An entry is what its own records make of it. -/
theorem entries_run (k : κ) : (run key start step s rs).entries k =
    if (rs.filter (key · = k)).isEmpty then s.entries k
    else some ((rs.filter (key · = k)).foldl step ((s.entries k).getD start)) := by
  induction rs generalizing s with
  | nil => rfl
  | cons r rs ih =>
    rw [run_cons, ih]
    by_cases hk : key r = k
    · have hself : (s.change (key r) start (step · r)).entries k =
          some (step ((s.entries k).getD start) r) := by
        rw [← hk]
        exact change_entries_self _
      rw [hself, List.filter_cons_of_pos (by simpa using hk)]
      cases hrest : rs.filter (key · = k) with
      | nil => simp
      | cons r' rs' => simp
    · rw [change_entries_of_ne _ (Ne.symm hk), List.filter_cons_of_neg (by simpa using hk)]

theorem isSome_entries_run : ((run key start step empty rs).entries k).isSome ↔ k ∈ rs.map key := by
  rw [entries_run]
  cases hown : rs.filter (key · = k) with
  | nil =>
    have hnone : k ∉ rs.map key := by
      intro hmem
      obtain ⟨r, hr, hk⟩ := List.mem_map.mp hmem
      have hin : r ∈ rs.filter (key · = k) := List.mem_filter.mpr ⟨hr, by simpa using hk⟩
      rw [hown] at hin
      cases hin
    simp [empty, hnone]
  | cons r rs' =>
    have hin : r ∈ rs.filter (key · = k) := by
      rw [hown]
      exact List.mem_cons_self
    obtain ⟨hr, hk⟩ := List.mem_filter.mp hin
    have hmem : k ∈ rs.map key := List.mem_map.mpr ⟨r, hr, by simpa using hk⟩
    simp [hmem]

/-- A run lists a key once some record carries it, and orders the keys by their first record. -/
theorem order_run : (∀ k, k ∈ (run key start step empty rs).order ↔ k ∈ rs.map key) ∧
    (run key start step empty rs).order.Pairwise fun j k =>
      (rs.map key).idxOf j < (rs.map key).idxOf k := by
  induction rs using List.reverseRecOn with
  | nil => simp [empty]
  | append_singleton rs r ih =>
    obtain ⟨hmem, hpairwise⟩ := ih
    rw [run_concat, List.map_append, List.map_singleton]
    have hsome : ((run key start step empty rs).entries (key r)).isSome ↔ key r ∈ rs.map key :=
      isSome_entries_run
    -- a later record does not move the first record of a key
    have hkept : (run key start step empty rs).order.Pairwise fun j k =>
        (rs.map key ++ [key r]).idxOf j < (rs.map key ++ [key r]).idxOf k := by
      refine hpairwise.imp_of_mem fun hj hk hlt => ?_
      rwa [List.idxOf_append_of_mem ((hmem _).mp hj), List.idxOf_append_of_mem ((hmem _).mp hk)]
    by_cases hseen : key r ∈ rs.map key
    · rw [change, if_pos (hsome.mpr hseen)]
      refine ⟨fun k => ?_, hkept⟩
      rw [hmem, List.mem_append, List.mem_singleton]
      constructor
      · exact Or.inl
      · rintro (hk | rfl)
        · exact hk
        · exact hseen
    · rw [change, if_neg (fun h => hseen (hsome.mp h))]
      refine ⟨fun k => ?_, List.pairwise_append.mpr ⟨hkept, List.pairwise_singleton _ _, ?_⟩⟩
      · rw [List.mem_append, List.mem_append, hmem]
      · intro j hj k hk
        have hin : j ∈ rs.map key := (hmem j).mp hj
        rw [List.mem_singleton.mp hk, List.idxOf_append_of_mem hin,
          List.idxOf_append_of_notMem hseen]
        have hlt := List.idxOf_lt_length_of_mem hin
        omega

/-- The keys are those of the records, each of them once. -/
theorem order_run_perm : (run key start step empty rs).order.Perm (rs.map key).dedup := by
  obtain ⟨hmem, hpairwise⟩ := @order_run κ ε ρ _ key start step rs
  have hnodup : (run key start step empty rs).order.Nodup := by
    refine hpairwise.imp fun hlt heq => ?_
    rw [heq] at hlt
    exact Nat.lt_irrefl _ hlt
  rw [List.perm_ext_iff_of_nodup hnodup (List.nodup_dedup _)]
  intro k
  rw [hmem, List.mem_dedup]

theorem getD_entries_run (k : κ) : ((run key start step empty rs).entries k).getD start =
    (rs.filter (key · = k)).foldl step start := by
  rw [entries_run]
  cases hown : rs.filter (key · = k) with
  | nil => rfl
  | cons r own => rfl

end KeyedFold
