import Mathlib.Data.List.DropRight
import Mathlib.Data.List.Infix

/-! Lists cut at a separator: in two at its first occurrence, and parts that are joined by it. -/
namespace Separator

variable {α : Type} [DecidableEq α] {sep s a b : List α} {c : α}

/-- What stands before and after the first occurrence of a separator that is not empty. -/
def partition (sep : List α) : List α → Option (List α × List α)
  | [] => none
  | c :: s =>
    if sep <+: c :: s then some ([], (c :: s).drop sep.length)
    else (partition sep s).map fun p => (c :: p.1, p.2)

/-- A cut of a list at the separator, and no cut before it. -/
structure FirstCut (sep s a b : List α) : Prop where
  cut : s = a ++ sep ++ b
  first : ∀ a' b', s = a' ++ sep ++ b' → a.length ≤ a'.length

omit [DecidableEq α] in
theorem FirstCut.unique {a' b' : List α} (h : FirstCut sep s a b) (h' : FirstCut sep s a' b') :
    a = a' ∧ b = b' := by
  have hlength : a.length = a'.length :=
    le_antisymm (h.first a' b' h'.cut) (h'.first a b h.cut)
  have heq : a ++ (sep ++ b) = a' ++ (sep ++ b') := by
    rw [← List.append_assoc, ← List.append_assoc, ← h.cut, h'.cut]
  obtain ⟨ha, hrest⟩ := List.append_inj heq hlength
  exact ⟨ha, List.append_cancel_left hrest⟩

theorem firstCut_of_partition (h : partition sep s = some (a, b)) : FirstCut sep s a b := by
  induction s generalizing a b with
  | nil => cases h
  | cons c s ih =>
    rw [partition] at h
    split at h
    · next hinitial =>
      cases h
      obtain ⟨rest, hrest⟩ := hinitial
      refine ⟨?_, fun _ _ _ => Nat.zero_le _⟩
      rw [← hrest, List.drop_left, List.nil_append]
    · next hinitial =>
      obtain ⟨⟨a', b'⟩, htail, heq⟩ := Option.map_eq_some_iff.mp h
      cases heq
      obtain ⟨hcut, hfirst⟩ := ih htail
      refine ⟨by rw [hcut]; rfl, fun x y hxy => ?_⟩
      cases x with
      | nil => exact absurd ⟨y, by simpa using hxy.symm⟩ hinitial
      | cons d x =>
        have hlength := hfirst x y (List.cons.inj hxy).2
        simpa using hlength

theorem not_cut_of_partition (hsep : sep ≠ []) (h : partition sep s = none) (a b : List α) :
    s ≠ a ++ sep ++ b := by
  induction s generalizing a with
  | nil => simp [hsep]
  | cons c s ih =>
    rw [partition] at h
    split at h
    · cases h
    · next hinitial =>
      intro hcut
      cases a with
      | nil => exact hinitial ⟨b, by simpa using hcut.symm⟩
      | cons d a => exact ih (Option.map_eq_none_iff.mp h) a (List.cons.inj hcut).2

theorem partition_eq_some_iff (hsep : sep ≠ []) :
    partition sep s = some (a, b) ↔ FirstCut sep s a b := by
  constructor
  · exact firstCut_of_partition
  · intro h
    cases hpartition : partition sep s with
    | none => exact absurd h.cut (not_cut_of_partition hsep hpartition a b)
    | some p =>
      obtain ⟨ha, hb⟩ := (firstCut_of_partition hpartition).unique h
      rw [← ha, ← hb]

theorem partition_eq_none_iff (hsep : sep ≠ []) :
    partition sep s = none ↔ ∀ a b, s ≠ a ++ sep ++ b := by
  constructor
  · exact not_cut_of_partition hsep
  · intro h
    cases hpartition : partition sep s with
    | none => rfl
    | some p => exact absurd (firstCut_of_partition hpartition).cut (h _ _)

section
variable {α : Type} {p : α → Bool} {sep s a b c : List α}

/-- A list without what the predicate says at both of its ends. -/
def strip (p : α → Bool) (s : List α) : List α := (s.dropWhile p).rdropWhile p

/-- Neither end of the list is of the kind that is stripped; in particular there are ends. -/
structure Trimmed (p : α → Bool) (s : List α) : Prop where
  first : ∃ x ∈ s.head?, p x = false
  last : ∃ x ∈ s.getLast?, p x = false

theorem Trimmed.ne_nil (h : Trimmed p s) : s ≠ [] := by
  rintro rfl
  obtain ⟨x, hx, -⟩ := h.first
  cases hx

theorem head_of_append (h : s ≠ []) (t : List α) : (s ++ t).head? = s.head? := by
  cases s with
  | nil => exact absurd rfl h
  | cons x s => rfl

theorem last_of_append (h : s ≠ []) (t : List α) : (t ++ s).getLast? = s.getLast? := by
  rw [List.getLast?_append]
  cases hlast : s.getLast? with
  | none => exact absurd (List.getLast?_eq_none_iff.mp hlast) h
  | some x => rfl

theorem Trimmed.dropWhile_append (h : Trimmed p s) (t : List α) :
    (s ++ t).dropWhile p = s ++ t := by
  obtain ⟨x, hx, hkept⟩ := h.first
  cases s with
  | nil => cases hx
  | cons y s =>
    cases hx
    exact List.dropWhile_cons_of_neg (by simp [hkept])

theorem Trimmed.rdropWhile (h : Trimmed p s) : s.rdropWhile p = s := by
  rw [List.rdropWhile_eq_self_iff]
  intro hne
  obtain ⟨x, hx, hkept⟩ := h.last
  rw [List.getLast?_eq_getLast_of_ne_nil hne] at hx
  cases hx
  simp [hkept]

theorem strip_of_trimmed (h : Trimmed p s) : strip p s = s := by
  have hdrop := h.dropWhile_append []
  rw [List.append_nil] at hdrop
  rw [strip, hdrop, h.rdropWhile]

theorem trimmed_strip (h : ¬ ∀ x ∈ s, p x = true) : Trimmed p (strip p s) := by
  have hdrop : s.dropWhile p ≠ [] := fun hnil => h (List.dropWhile_eq_nil_iff.mp hnil)
  obtain ⟨x, hx, hkept⟩ : ∃ x ∈ (s.dropWhile p).head?, p x = false := by
    refine ⟨(s.dropWhile p).head hdrop, List.head?_eq_some_head hdrop, ?_⟩
    simpa using List.head_dropWhile_not p hdrop
  have hne : strip p s ≠ [] := by
    intro hnil
    have hall := List.rdropWhile_eq_nil_iff.mp hnil x (List.mem_of_mem_head? hx)
    rw [hkept] at hall
    cases hall
  constructor
  · obtain ⟨rest, hrest⟩ : strip p s <+: s.dropWhile p := List.rdropWhile_prefix p _
    rw [← hrest, head_of_append hne] at hx
    exact ⟨x, hx, hkept⟩
  · refine ⟨(strip p s).getLast hne, List.getLast?_eq_getLast_of_ne_nil hne, ?_⟩
    exact Bool.not_eq_true _ ▸ List.rdropWhile_last_not p _ hne

/-- A separator stands at a position, between elements that are not stripped. -/
def OpenAt (p : α → Bool) (sep text : List α) (k : ℕ) : Prop :=
  ∃ a b, text = a ++ sep ++ b ∧ a.length = k ∧ (∃ x ∈ a.getLast?, p x = false) ∧
    ∃ x ∈ b.head?, p x = false

theorem ne_nil_of_last (h : ∃ x ∈ s.getLast?, p x = false) : s ≠ [] := by
  rintro rfl
  obtain ⟨x, hx, -⟩ := h
  cases hx

theorem ne_nil_of_head (h : ∃ x ∈ s.head?, p x = false) : s ≠ [] := by
  rintro rfl
  obtain ⟨x, hx, -⟩ := h
  cases hx

/-- Two open separators with something between them cut a trimmed text into three trimmed parts. -/
theorem exists_cut_of_openAt {text : List α} (htext : Trimmed p text) {i j : ℕ}
    (hi : OpenAt p sep text i) (hj : OpenAt p sep text j) (hlt : i + sep.length < j) :
    ∃ a b c, Trimmed p a ∧ Trimmed p b ∧ Trimmed p c ∧ text = a ++ sep ++ b ++ sep ++ c ∧
      a.length = i ∧ a.length + sep.length + b.length = j := by
  obtain ⟨x, y, hxy, rfl, hx, hy⟩ := hi
  obtain ⟨x', y', hxy', rfl, hx', hy'⟩ := hj
  have hinitial : x ++ sep <+: x' ++ (sep ++ y') := by
    rw [← List.append_assoc, ← hxy', hxy]
    exact List.prefix_append _ _
  obtain ⟨m, rfl⟩ := List.prefix_of_prefix_length_le hinitial (List.prefix_append _ _)
    (by rw [List.length_append]; exact hlt.le)
  have hm : m ≠ [] := by
    rintro rfl
    rw [List.append_nil, List.length_append] at hlt
    exact lt_irrefl _ hlt
  have hyeq : y = m ++ (sep ++ y') := by
    apply @List.append_cancel_left _ (x ++ sep)
    rw [← hxy, hxy']
    simp only [List.append_assoc]
  refine ⟨x, m, y', ⟨?_, hx⟩, ⟨?_, ?_⟩, ⟨hy', ?_⟩, hxy', rfl, by simp only [List.length_append]⟩
  · have hhead := htext.first
    rwa [hxy, List.append_assoc, head_of_append (ne_nil_of_last hx)] at hhead
  · rwa [hyeq, head_of_append hm] at hy
  · rwa [last_of_append hm] at hx'
  · have hlast := htext.last
    rwa [hxy', last_of_append (ne_nil_of_head hy')] at hlast

theorem Trimmed.join (ha : Trimmed p a) (hc : Trimmed p c) :
    Trimmed p (a ++ sep ++ b ++ sep ++ c) := by
  constructor
  · have hhead := ha.first
    rwa [← head_of_append ha.ne_nil (sep ++ (b ++ (sep ++ c))), ← List.append_assoc,
      ← List.append_assoc, ← List.append_assoc] at hhead
  · rw [last_of_append hc.ne_nil]
    exact hc.last

/-- Three parts are the only trimmed ones that their join is a join of exactly when it has no other
two open separators with something between them. -/
theorem unique_join_iff (ha : Trimmed p a) (hb : Trimmed p b) (hc : Trimmed p c) :
    (∀ a' b' c', Trimmed p a' → Trimmed p b' → Trimmed p c' →
        a' ++ sep ++ b' ++ sep ++ c' = a ++ sep ++ b ++ sep ++ c → a' = a ∧ b' = b ∧ c' = c) ↔
      ∀ i j, OpenAt p sep (a ++ sep ++ b ++ sep ++ c) i →
        OpenAt p sep (a ++ sep ++ b ++ sep ++ c) j → i + sep.length < j →
          i = a.length ∧ j = a.length + sep.length + b.length := by
  constructor
  · intro h i j hi hj hlt
    obtain ⟨a', b', c', ha', hb', hc', hjoin, rfl, rfl⟩ :=
      exists_cut_of_openAt (ha.join hc) hi hj hlt
    obtain ⟨rfl, rfl, -⟩ := h a' b' c' ha' hb' hc' hjoin.symm
    exact ⟨rfl, rfl⟩
  · intro h a' b' c' ha' hb' hc' hjoin
    have hfirst : OpenAt p sep (a ++ sep ++ b ++ sep ++ c) a'.length := by
      refine ⟨a', b' ++ (sep ++ c'), ?_, rfl, ha'.last, ?_⟩
      · rw [← hjoin]
        simp only [List.append_assoc]
      · rw [head_of_append hb'.ne_nil]
        exact hb'.first
    have hsecond : OpenAt p sep (a ++ sep ++ b ++ sep ++ c)
        (a'.length + sep.length + b'.length) := by
      refine ⟨a' ++ sep ++ b', c', hjoin.symm, by simp only [List.length_append], ?_, hc'.first⟩
      rw [last_of_append hb'.ne_nil]
      exact hb'.last
    have hpos : 0 < b'.length := List.length_pos_of_ne_nil hb'.ne_nil
    obtain ⟨hlen, hlen'⟩ := h _ _ hfirst hsecond (by omega)
    simp only [List.append_assoc] at hjoin
    obtain ⟨rfl, hrest⟩ := List.append_inj hjoin hlen
    obtain ⟨rfl, hlast⟩ := List.append_inj (List.append_cancel_left hrest) (by omega)
    exact ⟨rfl, rfl, List.append_cancel_left hlast⟩

end

end Separator
