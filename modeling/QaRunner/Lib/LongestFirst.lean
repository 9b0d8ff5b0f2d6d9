import QaRunner.Lib.ListScheduling
import Mathlib.Algebra.Order.BigOperators.Group.List
import Mathlib.Algebra.Order.Ring.Int
import Mathlib.Data.Int.LeastGreatest
import Mathlib.Data.List.Induction
import Mathlib.Tactic.Linarith

/-! Longest jobs first: the greedy schedule of jobs in descending order against every other way of
placing them. -/
namespace ListScheduling

variable {α β : Type}

/-- What a list of jobs weighs in total. -/
def total (weight : α → ℤ) (jobs : List α) : ℤ := (jobs.map weight).sum

/-- The jobs placed into so many bins. -/
structure Placement (jobs : List α) (n : ℕ) (bins : List (List α)) : Prop where
  length : bins.length = n
  perm : bins.flatten.Perm jobs

/-- The jobs can be placed so that no bin carries more than the limit. -/
def Fits (weight : α → ℤ) (jobs : List α) (n : ℕ) (limit : ℤ) : Prop :=
  ∃ bins, Placement jobs n bins ∧ ∀ b ∈ bins, total weight b ≤ limit

section
variable {weight : α → ℤ} {contents : α → List β} {bins : List (Bin α)} {jobs : List α} {job : α}
  {n : ℕ} {limit : ℤ} {loads : List ℤ}

@[simp] theorem total_cons : total weight (job :: jobs) = weight job + total weight jobs :=
  List.sum_cons

@[simp] theorem total_append {others : List α} :
    total weight (jobs ++ others) = total weight jobs + total weight others := by
  rw [total, List.map_append, List.sum_append]
  rfl

theorem total_nonneg (h : ∀ job ∈ jobs, 0 ≤ weight job) : 0 ≤ total weight jobs := by
  apply List.sum_nonneg
  rwa [List.forall_mem_map]

section
variable {p : α → Bool} {parts : List (List α)}

end

theorem Fits.nonneg (h : Fits weight jobs n limit) (hn : 0 < n)
    (hnonneg : ∀ job ∈ jobs, 0 ≤ weight job) : 0 ≤ limit := by
  obtain ⟨bins, hplaced, hfits⟩ := h
  have hne : bins ≠ [] := by
    rw [← List.length_pos_iff, hplaced.length]
    exact hn
  obtain ⟨b, hb⟩ := List.exists_mem_of_ne_nil bins hne
  refine (total_nonneg fun job hjob => hnonneg job ?_).trans (hfits b hb)
  exact hplaced.perm.mem_iff.mp (List.mem_flatten.mpr ⟨b, hb, hjob⟩)

/-- What fits still fits without the last job. -/
theorem Fits.of_append (h : Fits weight (jobs ++ [job]) n limit) (hjob : 0 ≤ weight job) :
    Fits weight jobs n limit := by
  obtain ⟨bins, hplaced, hfits⟩ := h
  have hin : job ∈ bins.flatten :=
    hplaced.perm.mem_iff.mpr (List.mem_append_right _ (List.mem_singleton.mpr rfl))
  obtain ⟨b, hb, hmem⟩ := List.mem_flatten.mp hin
  obtain ⟨before, after, rfl⟩ := List.append_of_mem hb
  obtain ⟨earlier, later, rfl⟩ := List.append_of_mem hmem
  refine ⟨before ++ (earlier ++ later) :: after, ⟨?_, ?_⟩, ?_⟩
  · rw [← hplaced.length]
    simp
  · have hperm := hplaced.perm
    simp only [List.flatten_append, List.flatten_cons, List.append_assoc, List.cons_append]
      at hperm ⊢
    have hfront : (before.flatten ++ (earlier ++ job :: (later ++ after.flatten))).Perm
        (job :: (before.flatten ++ (earlier ++ (later ++ after.flatten)))) := by
      rw [← List.append_assoc, ← List.append_assoc before.flatten earlier (later ++ _)]
      exact List.perm_middle
    have hback : (jobs ++ [job]).Perm (job :: jobs) := List.perm_append_singleton job jobs
    exact ((hfront.symm.trans hperm).trans hback).cons_inv
  · intro c hc
    rcases List.mem_append.mp hc with hc | hc
    · exact hfits c (List.mem_append_left _ hc)
    · rcases List.mem_cons.mp hc with rfl | hc
      · have hold := hfits _ (List.mem_append_right _ List.mem_cons_self)
        rw [total_append, total_cons] at hold
        rw [total_append]
        omega
      · exact hfits c (List.mem_append_right _ (List.mem_cons_of_mem _ hc))

end
end ListScheduling
