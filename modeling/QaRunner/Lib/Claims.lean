import QaRunner.Lib.Interleaving

/-! A resource that programs claim in one step, by a test and a write, work on while they hold it,
and release: however they interleave, one of them at a time does. -/
namespace Interleaving

variable {σ ε α β ι : Type}

/-- What is claimed, and the stores in which it is there to be claimed. -/
structure Resource (σ : Type) where
  present : σ → Prop
  claimed : σ → Prop

/-- What holds at the start of a run and is kept by its steps holds throughout. -/
theorem Run.kept [DecidableEq ι] {env : σ → σ → Prop} {c c' : Config ι σ ε α}
    {events : List (Event ι σ)} {P : σ → Prop} (hrun : Run env c events c') (hstart : P c.store)
    (hevents : ∀ e ∈ events, P e.before → P e.after) :
    P c'.store ∧ ∀ e ∈ events, P e.before := by
  induction hrun with
  | refl c => exact ⟨hstart, fun e he => absurd he List.not_mem_nil⟩
  | prog _ _ _ ih =>
    obtain ⟨hfirst, hrest⟩ := List.forall_mem_cons.mp hevents
    obtain ⟨hend, hkept⟩ := ih (hfirst hstart) hrest
    exact ⟨hend, List.forall_mem_cons.mpr ⟨hstart, hkept⟩⟩
  | env _ _ ih =>
    obtain ⟨hfirst, hrest⟩ := List.forall_mem_cons.mp hevents
    obtain ⟨hend, hkept⟩ := ih (hfirst hstart) hrest
    exact ⟨hend, List.forall_mem_cons.mpr ⟨hstart, hkept⟩⟩

namespace Resource
variable (r : Resource σ)

/-- What a step does to the claim, and to whether its program holds it. -/
inductive Moves : Bool → Bool → σ → σ → Prop
  | stay {held s s'} (hsame : r.claimed s' ↔ r.claimed s) : Moves held held s s'
  | claim {s s'} (hfree : ¬ r.claimed s) (hclaimed : r.claimed s') : Moves false true s s'
  | release {s s'} (hfree : ¬ r.claimed s') : Moves true false s s'

/-- From holding the resource or not, the program moves the claim only by these rules, does its work
only while it holds the resource, and ends as `Q` says. -/
inductive Disciplined (work : σ → σ → Prop) (Q : Bool → Except ε α → Prop) :
    Bool → Prog σ ε α → Prop
  | done {held result} (hend : Q held result) : Disciplined work Q held (.done result)
  | step {held write next} (after : σ → Bool)
      (hmove : ∀ s, r.present s → r.present (write s) → r.Moves held (after s) s (write s))
      (hwork : ∀ s, work s (write s) → held = true)
      (hnext : ∀ s, Disciplined work Q (after s) (next s)) :
      Disciplined work Q held (.step write next)

variable {r} {work : σ → σ → Prop} {Q : Bool → Except ε α → Prop} {held : Bool}

theorem Disciplined.bind {Q' : Bool → Except ε β → Prop} {p : Prog σ ε α} {f : α → Prog σ ε β}
    (hp : r.Disciplined work Q held p)
    (hok : ∀ held a, Q held (.ok a) → r.Disciplined work Q' held (f a))
    (herror : ∀ held e, Q held (.error e) → Q' held (.error e)) :
    r.Disciplined work Q' held (p >>= f) := by
  induction hp with
  | @done held result hend =>
    cases result with
    | ok a => exact hok held a hend
    | error e => exact .done (herror held e hend)
  | step after hmove hwork _ ih => exact .step after hmove hwork ih

theorem Disciplined.mono {Q' : Bool → Except ε α → Prop} {p : Prog σ ε α}
    (hp : r.Disciplined work Q held p) (h : ∀ held result, Q held result → Q' held result) :
    r.Disciplined work Q' held p := by
  induction hp with
  | done hend => exact .done (h _ _ hend)
  | step after hmove hwork _ ih => exact .step after hmove hwork ih

theorem disciplined_call {operation : σ → Except ε (α × σ)} (after : σ → Bool)
    (hmove : ∀ s, r.present s → r.present (Prog.written operation s) →
      r.Moves held (after s) s (Prog.written operation s))
    (hwork : ∀ s, work s (Prog.written operation s) → held = true)
    (hend : ∀ s, Q (after s) ((operation s).map Prod.fst)) :
    r.Disciplined work Q held (Prog.call operation) :=
  .step after hmove hwork fun s => .done (hend s)

theorem disciplined_read {look : σ → Except ε α} (hwork : ∀ s, ¬ work s s)
    (hend : ∀ s, Q held (look s)) : r.Disciplined work Q held (Prog.read look) :=
  .step (fun _ => held) (fun _ _ _ => .stay Iff.rfl) (fun s h => absurd h (hwork s)) fun s =>
    .done (hend s)

/-- Every program keeps to its part, and the holder is the only one. -/
structure Exclusive (r : Resource σ) (works : ι → σ → σ → Prop) (held : ι → Bool)
    (c : Config ι σ ε α) : Prop where
  disciplined : ∀ i, r.Disciplined (works i) (fun _ _ => True) (held i) (c.progs i)
  alone : ∀ i j, held i = true → held j = true → i = j
  claimed : ∀ i, held i = true → r.claimed c.store

variable [DecidableEq ι] {works : ι → σ → σ → Prop} {holds : ι → Bool} {c c' : Config ι σ ε α}
  {env : σ → σ → Prop} {events : List (Event ι σ)} {i : ι}

/-- The claims of the programs other than the one that moves stay as they are. -/
theorem Moves.alone {held held' : Bool} {s s' : σ} (hmove : r.Moves held held' s s')
    (hheld : holds i = held) (halone : ∀ i j, holds i = true → holds j = true → i = j)
    (hclaimed : ∀ i, holds i = true → r.claimed s) :
    (∀ j k, Function.update holds i held' j = true → Function.update holds i held' k = true →
        j = k) ∧
      ∀ j, Function.update holds i held' j = true → r.claimed s' := by
  cases hmove with
  | stay hsame =>
    rw [← hheld, Function.update_eq_self]
    exact ⟨halone, fun j hj => hsame.mpr (hclaimed j hj)⟩
  | claim hfree hs' =>
    have hnone : ∀ j, Function.update holds i true j = true → j = i := by
      intro j hj
      by_contra hne
      rw [Function.update_of_ne hne] at hj
      exact hfree (hclaimed j hj)
    exact ⟨fun j k hj hk => (hnone j hj).trans (hnone k hk).symm, fun _ _ => hs'⟩
  | release hfree =>
    have hnone : ∀ j, Function.update holds i false j = true → False := by
      intro j hj
      by_cases hji : j = i
      · rw [hji, Function.update_self] at hj
        cases hj
      · rw [Function.update_of_ne hji] at hj
        exact hji (halone j i hj hheld)
    exact ⟨fun j _ hj => (hnone j hj).elim, fun j hj => (hnone j hj).elim⟩

theorem Exclusive.step (h : r.Exclusive works holds c) {write : σ → σ} {next : σ → Prog σ ε α}
    (hi : c.progs i = .step write next) (hbefore : r.present c.store)
    (hafter : r.present (write c.store)) :
    (works i c.store (write c.store) → holds i = true) ∧
      ∃ holds', r.Exclusive works holds'
        ⟨write c.store, Function.update c.progs i (next c.store)⟩ := by
  have hstep := h.disciplined i
  rw [hi] at hstep
  cases hstep with
  | step after hmove hwork hnext =>
    refine ⟨hwork c.store, Function.update holds i (after c.store), ?_⟩
    obtain ⟨halone, hclaimed⟩ := (hmove c.store hbefore hafter).alone rfl h.alone h.claimed
    refine ⟨fun j => ?_, halone, hclaimed⟩
    by_cases hj : j = i
    · subst hj
      simp only [Function.update_self]
      exact hnext c.store
    · simp only [Function.update_of_ne hj]
      exact h.disciplined j

/-- While the resource stays claimed its holder stays the same. -/
theorem Moves.kept {held held' : Bool} {s s' : σ} (hmove : r.Moves held held' s s')
    (hbefore : r.claimed s) (hafter : r.claimed s') : held' = held := by
  cases hmove with
  | stay => rfl
  | claim hfree => exact absurd hbefore hfree
  | release hfree => exact absurd hafter hfree

theorem Exclusive.step_kept (h : r.Exclusive works holds c) {write : σ → σ}
    {next : σ → Prog σ ε α} (hi : c.progs i = .step write next) (hbefore : r.present c.store)
    (hafter : r.present (write c.store)) (hclaimed : r.claimed c.store)
    (hkept : r.claimed (write c.store)) :
    r.Exclusive works holds ⟨write c.store, Function.update c.progs i (next c.store)⟩ := by
  have hstep := h.disciplined i
  rw [hi] at hstep
  cases hstep with
  | step after hmove _ hnext =>
    have hsame := (hmove c.store hbefore hafter).kept hclaimed hkept
    refine ⟨fun j => ?_, h.alone, fun _ _ => hkept⟩
    by_cases hj : j = i
    · subst hj
      simp only [Function.update_self]
      rw [← hsame]
      exact hnext c.store
    · simp only [Function.update_of_ne hj]
      exact h.disciplined j

theorem Exclusive.run_kept (hrun : Run env c events c') (h : r.Exclusive works holds c)
    (hbefore : r.present c.store) (hpresent : ∀ e ∈ events, r.present e.after)
    (hclaimed : r.claimed c.store) (hkept : ∀ e ∈ events, r.claimed e.after) :
    r.Exclusive works holds c' := by
  induction hrun with
  | refl c => exact h
  | prog i hi _ ih =>
    obtain ⟨hafter, hrest⟩ := List.forall_mem_cons.mp hpresent
    obtain ⟨hclaimed', hkept'⟩ := List.forall_mem_cons.mp hkept
    exact ih (h.step_kept hi hbefore hafter hclaimed hclaimed') hafter hrest hclaimed' hkept'
  | env _ _ ih =>
    obtain ⟨hafter, hrest⟩ := List.forall_mem_cons.mp hpresent
    obtain ⟨hclaimed', hkept'⟩ := List.forall_mem_cons.mp hkept
    exact ih ⟨h.disciplined, h.alone, fun _ _ => hclaimed'⟩ hafter hrest hclaimed' hkept'

/-- However the programs interleave, one works only while the resource is claimed, by it alone. -/
theorem Exclusive.run (hrun : Run env c events c') (h : r.Exclusive works holds c)
    (henv : ∀ s s', env s s' → r.present s → r.present s' → (r.claimed s' ↔ r.claimed s))
    (hbefore : r.present c.store) (hpresent : ∀ e ∈ events, r.present e.after) :
    (∃ holds', r.Exclusive works holds' c') ∧
      ∀ e ∈ events, ∀ i, e.actor = some i → works i e.before e.after → r.claimed e.before := by
  induction hrun generalizing holds with
  | refl c => exact ⟨⟨holds, h⟩, fun e he => absurd he List.not_mem_nil⟩
  | @prog c c' events i write next hi _ ih =>
    obtain ⟨hafter, hrest⟩ := List.forall_mem_cons.mp hpresent
    obtain ⟨hwork, holds', hnext⟩ := h.step hi hbefore hafter
    obtain ⟨hend, hevents⟩ := ih hnext hafter hrest
    refine ⟨hend, List.forall_mem_cons.mpr ⟨?_, hevents⟩⟩
    intro j hj hworks
    cases hj
    exact h.claimed i (hwork hworks)
  | @env c c' events s hs _ ih =>
    obtain ⟨hafter, hrest⟩ := List.forall_mem_cons.mp hpresent
    have hnext : r.Exclusive works holds ⟨s, c.progs⟩ :=
      ⟨h.disciplined, h.alone, fun i hi => (henv _ _ hs hbefore hafter).mpr (h.claimed i hi)⟩
    obtain ⟨hend, hevents⟩ := ih hnext hafter hrest
    refine ⟨hend, List.forall_mem_cons.mpr ⟨?_, hevents⟩⟩
    intro j hj
    cases hj

/-- The program whose step is next in a run holds the resource if the step is work. -/
theorem Exclusive.holds_of_work (h : r.Exclusive works holds c) {e : Event ι σ}
    (hrun : Run env c (e :: events) c') (hactor : e.actor = some i)
    (hwork : works i e.before e.after) (hbefore : r.present c.store) (hafter : r.present e.after) :
    holds i = true := by
  cases hrun with
  | prog j hj _ =>
    cases hactor
    exact (h.step hj hbefore hafter).1 hwork
  | env => cases hactor

/-- Between the work of one program and that of another the resource has been free. -/
theorem Exclusive.apart {early mid late : List (Event ι σ)} {e e' : Event ι σ} {j : ι}
    (h : r.Exclusive works holds c)
    (hrun : Run env c (early ++ e :: mid ++ e' :: late) c')
    (henv : ∀ s s', env s s' → r.present s → r.present s' → (r.claimed s' ↔ r.claimed s))
    (hbefore : r.present c.store)
    (hpresent : ∀ d ∈ early ++ e :: mid ++ e' :: late, r.present d.after)
    (hi : e.actor = some i) (hiwork : works i e.before e.after)
    (hj : e'.actor = some j) (hjwork : works j e'.before e'.after) (hne : i ≠ j) :
    ∃ d ∈ e :: mid, ¬ r.claimed d.after := by
  by_contra hnone
  have hkept : ∀ d ∈ e :: mid, r.claimed d.after := by
    intro d hd
    by_contra hfree
    exact hnone ⟨d, hd, hfree⟩
  have hmidpresent : ∀ d ∈ e :: mid, r.present d.after := fun d hd =>
    hpresent d (List.mem_append_left _ (List.mem_append_right _ hd))
  obtain ⟨c₂, hfirst, hlast⟩ := hrun.split
  obtain ⟨c₁, hearly, hmid⟩ := hfirst.split
  obtain ⟨⟨holds₁, hexclusive₁⟩, -⟩ := h.run hearly henv hbefore fun d hd =>
    hpresent d (by simp [hd])
  have hpresent₁ : r.present c₁.store := (hearly.kept hbefore fun d hd _ =>
    hpresent d (by simp [hd])).1
  have hholdsi : holds₁ i = true := hexclusive₁.holds_of_work hmid hi hiwork hpresent₁
    (hpresent e (by simp))
  have hexclusive₂ : r.Exclusive works holds₁ c₂ := hexclusive₁.run_kept hmid hpresent₁
    hmidpresent (hexclusive₁.claimed i hholdsi) hkept
  have hpresent₂ : r.present c₂.store := (hmid.kept hpresent₁ fun d hd _ => hmidpresent d hd).1
  have hholdsj : holds₁ j = true := hexclusive₂.holds_of_work hlast hj hjwork hpresent₂
    (hpresent e' (by simp))
  exact hne (hexclusive₂.alone i j hholdsi hholdsj)

end Resource
end Interleaving
