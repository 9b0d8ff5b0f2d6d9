import Mathlib.Data.Int.Notation
import Mathlib.Logic.Basic

/-! Aggregates driven by fallible commands, where a failed command leaves the state as it was:
runs, invariants and relations over runs, optimistic versions, and absorbing states. -/
namespace Aggregate

variable {σ κ ε : Type} (exec : σ → κ → Except ε σ)

/-- The state after one command. -/
def apply (s : σ) (c : κ) : σ :=
  match exec s c with
  | .ok s' => s'
  | .error _ => s

/-- The state after a sequence of commands. -/
def after (s : σ) (cs : List κ) : σ := cs.foldl (apply exec) s

/-- Some sequence of commands leads here from an initial state. -/
def Reachable (initial : σ → Prop) (s : σ) : Prop := ∃ s₀ cs, initial s₀ ∧ after exec s₀ cs = s

variable {exec} {s : σ} {c d : κ}

theorem apply_cases : apply exec s c = s ∨ exec s c = .ok (apply exec s c) := by
  unfold apply
  cases exec s c with
  | ok s' => exact Or.inr rfl
  | error e => exact Or.inl rfl

theorem apply_of_ok {s' : σ} (h : exec s c = .ok s') : apply exec s c = s' := by
  rw [apply, h]

theorem after_append (cs ds : List κ) :
    after exec s (cs ++ ds) = after exec (after exec s cs) ds := List.foldl_append

/-- A run goes on with one more command. -/
theorem after_concat {cs : List κ} {t s' : σ} (hcs : after exec s cs = t)
    (h : exec t c = .ok s') : after exec s (cs ++ [c]) = s' := by
  rw [after_append, hcs]
  exact apply_of_ok h

/-- What every successful command preserves, every run preserves. -/
theorem after_induction {P : σ → Prop} (hstep : ∀ s c s', P s → exec s c = .ok s' → P s')
    (hs : P s) (cs : List κ) : P (after exec s cs) := by
  induction cs generalizing s with
  | nil => exact hs
  | cons c cs ih =>
    apply ih
    have hcases : apply exec s c = s ∨ exec s c = .ok (apply exec s c) := apply_cases
    rcases hcases with hsame | hok
    · rwa [hsame]
    · exact hstep s c _ hs hok

/-- A preorder that every successful command respects holds between the ends of a run. -/
theorem after_related {R : σ → σ → Prop} (hrefl : ∀ s, R s s)
    (htrans : ∀ s t u, R s t → R t u → R s u) (hstep : ∀ s c s', exec s c = .ok s' → R s s')
    (s : σ) (cs : List κ) : R s (after exec s cs) :=
  after_induction (P := R s) (fun t c t' hst hok => htrans s t t' hst (hstep t c t' hok)) (hrefl s)
    cs

theorem reachable_induction {initial P : σ → Prop} (hinit : ∀ s, initial s → P s)
    (hstep : ∀ s c s', P s → exec s c = .ok s' → P s') (hs : Reachable exec initial s) : P s := by
  obtain ⟨s₀, cs, hs₀, rfl⟩ := hs
  exact after_induction hstep (hinit s₀ hs₀) cs

theorem Reachable.after {initial : σ → Prop} (hs : Reachable exec initial s) (cs : List κ) :
    Reachable exec initial (after exec s cs) := by
  obtain ⟨s₀, bs, hs₀, rfl⟩ := hs
  exact ⟨s₀, bs ++ cs, hs₀, after_append bs cs⟩

variable (exec) in
/-- A run issues the command in the state that the commands before it left. -/
def Issued (s : σ) (cs : List κ) (t : σ) (c : κ) : Prop :=
  ∃ earlier later, cs = earlier ++ c :: later ∧ after exec s earlier = t

/-- What holds after a run and not before it was brought about by one of its commands. -/
theorem exists_issued {P : σ → Prop} {cs : List κ} (hs : ¬ P s) (h : P (after exec s cs)) :
    ∃ t c t', Issued exec s cs t c ∧ exec t c = .ok t' ∧ ¬ P t ∧ P t' := by
  induction cs generalizing s with
  | nil => exact absurd h hs
  | cons c cs ih =>
    by_cases hc : P (apply exec s c)
    · have hstep : apply exec s c = s ∨ exec s c = .ok (apply exec s c) := apply_cases
      rcases hstep with hsame | hok
      · rw [hsame] at hc
        exact absurd hc hs
      · exact ⟨s, c, _, ⟨[], cs, rfl, rfl⟩, hok, hs, hc⟩
    · obtain ⟨t, d, t', ⟨earlier, later, rfl, rfl⟩, hok, ht, ht'⟩ := ih hc h
      exact ⟨_, d, t', ⟨c :: earlier, later, rfl, rfl⟩, hok, ht, ht'⟩

/-- Commands that fail in every state of the run may be left out of it. -/
theorem after_filter {P : σ → Prop} {p : κ → Bool}
    (hstep : ∀ s c s', P s → exec s c = .ok s' → P s')
    (hskip : ∀ s c s', P s → exec s c = .ok s' → p c = true) (hs : P s) (cs : List κ) :
    after exec s (cs.filter p) = after exec s cs := by
  induction cs generalizing s with
  | nil => rfl
  | cons c cs ih =>
    have hcases : apply exec s c = s ∨ exec s c = .ok (apply exec s c) := apply_cases
    rcases hcases with hsame | hok
    · have hrest : after exec s (c :: cs) = after exec s cs := congrArg (after exec · cs) hsame
      by_cases hc : p c = true
      · rw [List.filter_cons_of_pos hc, hrest, ← ih hs]
        exact congrArg (after exec · (cs.filter p)) hsame
      · rw [List.filter_cons_of_neg hc, hrest, ih hs]
    · rw [List.filter_cons_of_pos (hskip s c _ hs hok)]
      exact ih (hstep s c _ hs hok)

variable (exec) in
/-- A command that changes the state was prepared against its version and bumps it by one. -/
def VersionGuarded (version : σ → ℤ) (expected : κ → ℤ) : Prop :=
  ∀ s c s', exec s c = .ok s' → s' ≠ s → expected c = version s ∧ version s' = version s + 1

theorem VersionGuarded.at_most_one {version : σ → ℤ} {expected : κ → ℤ}
    (h : VersionGuarded exec version expected) (hcd : expected c = expected d) :
    apply exec s c = s ∨ apply exec (apply exec s c) d = apply exec s c := by
  by_cases hc : apply exec s c = s
  · exact Or.inl hc
  by_cases hd : apply exec (apply exec s c) d = apply exec s c
  · exact Or.inr hd
  have hcok := apply_cases.resolve_left hc
  have hdok := apply_cases.resolve_left hd
  obtain ⟨hec, hvc⟩ := h s c _ hcok hc
  obtain ⟨hed, -⟩ := h _ d _ hdok hd
  omega

/-- Over a run the version does not go back, and while it stays the state does. -/
theorem VersionGuarded.after {version : σ → ℤ} {expected : κ → ℤ}
    (h : VersionGuarded exec version expected) (s : σ) (cs : List κ) :
    version s ≤ version (after exec s cs) ∧
      (version (after exec s cs) = version s → after exec s cs = s) := by
  refine after_related (R := fun s s' => version s ≤ version s' ∧ (version s' = version s → s' = s))
    (fun s => ⟨Int.le_refl _, fun _ => rfl⟩) ?_ ?_ s cs
  · rintro s t u ⟨hst, hst'⟩ ⟨htu, htu'⟩
    refine ⟨Int.le_trans hst htu, fun hus => ?_⟩
    have hts : t = s := hst' (by omega)
    exact (htu' (by omega)).trans hts
  · intro s c s' hs
    by_cases hne : s' = s
    · exact ⟨Int.le_of_eq (by rw [hne]), fun _ => hne⟩
    · have hbump := (h s c s' hs hne).2
      exact ⟨by omega, fun hsame => by omega⟩

variable (exec) in
/-- No command leads out of the state. -/
def Absorbing (s : σ) : Prop := ∀ c s', exec s c = .ok s' → s' = s

theorem Absorbing.after_eq (h : Absorbing exec s) (cs : List κ) : after exec s cs = s :=
  after_induction (P := fun t => t = s) (fun _ c t' ht hok => h c t' (ht ▸ hok)) rfl cs

end Aggregate
