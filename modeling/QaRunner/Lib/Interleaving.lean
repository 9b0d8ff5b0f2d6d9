import Mathlib.Data.Nat.Notation
import Mathlib.Logic.Function.Basic
import Mathlib.Order.Defs.Unbundled

/-! Programs that take atomic steps on one store, interleaved in any order. A run, seen from one
program, is the steps of that program with steps of the others between them. -/
namespace Interleaving

variable {σ ε α β ι : Type}

/-- A program has ended, or takes one atomic step and goes on with what it saw of the store. -/
inductive Prog (σ ε α : Type) where
  | done (result : Except ε α)
  | step (write : σ → σ) (next : σ → Prog σ ε α)

namespace Prog

def bind : Prog σ ε α → (α → Prog σ ε β) → Prog σ ε β
  | .done (.ok a), f => f a
  | .done (.error e), _ => .done (.error e)
  | .step write next, f => .step write fun s => (next s).bind f

instance : Monad (Prog σ ε) where
  pure a := .done (.ok a)
  bind := bind

/-- Look at the store once. -/
def read (look : σ → Except ε α) : Prog σ ε α := .step id fun s => .done (look s)

/-- The store after an operation that leaves it alone when it fails. -/
def written (operation : σ → Except ε (α × σ)) (s : σ) : σ :=
  match operation s with
  | .ok (_, s') => s'
  | .error _ => s

/-- Read and write the store in one step. -/
def call (operation : σ → Except ε (α × σ)) : Prog σ ε α :=
  .step (written operation) fun s => .done ((operation s).map Prod.fst)

/-- A step that does not touch the store. -/
def lift (x : Except ε α) : Prog σ ε α := .done x

theorem bind_assoc {γ : Type} (p : Prog σ ε α) (f : α → Prog σ ε β) (g : β → Prog σ ε γ) :
    (p >>= f) >>= g = p >>= fun a => f a >>= g := by
  induction p with
  | done result => cases result <;> rfl
  | step write next ih => exact congrArg (Prog.step write) (funext ih)

theorem lift_error_bind {e : ε} {f : α → Prog σ ε β} :
    ((lift (.error e) : Prog σ ε α) >>= f) = .done (.error e) := rfl

/-- A look at the store after which only a check decides is one look. -/
theorem read_checked (look : σ → Except ε α) (check : α → Except ε Unit) :
    (read look >>= fun a => lift (check a) >>= fun _ => pure a) =
      read fun s => (do let a ← look s; check a; return a) := by
  show Prog.step id (fun s => (Prog.done (look s)).bind _) = Prog.step id _
  congr 1
  funext s
  show (Prog.done (look s)).bind _ = .done (look s >>= fun a => check a >>= fun _ => pure a)
  cases look s with
  | error e => rfl
  | ok a =>
    show Prog.bind (.done (check a)) (fun _ => pure a) = .done (check a >>= fun _ => pure a)
    cases check a with
    | ok _ => rfl
    | error e => rfl

theorem written_of_ok {operation : σ → Except ε (α × σ)} {s s' : σ} {a : α}
    (h : operation s = .ok (a, s')) : written operation s = s' := by
  rw [written, h]

theorem written_of_error {operation : σ → Except ε (α × σ)} {s : σ} {e : ε}
    (h : operation s = .error e) : written operation s = s := by
  rw [written, h]

/-- The program writes nothing. -/
inductive Quiet : Prog σ ε α → Prop
  | done (result) : Quiet (.done result)
  | step {write next} (hwrite : ∀ s, write s = s) (hnext : ∀ s, Quiet (next s)) :
      Quiet (.step write next)

/-- The program writes at most once, and ends as it does. -/
inductive OneWrite : Prog σ ε α → Prop
  | done (result) : OneWrite (.done result)
  | step {write next} (hwrite : ∀ s, write s = s) (hnext : ∀ s, OneWrite (next s)) :
      OneWrite (.step write next)
  | last {write next} (hlast : ∀ s, ∃ result, next s = .done result) : OneWrite (.step write next)

/-- From the store on, and with steps of the given kind between its own, every step the program
takes is of that kind. -/
inductive Guarantees (R : σ → σ → Prop) : Prog σ ε α → σ → Prop
  | done (result s) : Guarantees R (.done result) s
  | step {write next s} (hwrite : ∀ t, R s t → R t (write t))
      (hnext : ∀ t, R s t → Guarantees R (next t) (write t)) : Guarantees R (.step write next) s

/-- Every step of the program is of the given kind, whatever the store it is taken at. -/
inductive Always (R : σ → σ → Prop) : Prog σ ε α → Prop
  | done (result) : Always R (.done result)
  | step {write next} (hwrite : ∀ s, R s (write s)) (hnext : ∀ s, Always R (next s)) :
      Always R (.step write next)

/-- The program takes at most so many steps. -/
inductive Within : ℕ → Prog σ ε α → Prop
  | done (n result) : Within n (.done result)
  | step {n write next} (hnext : ∀ s, Within n (next s)) : Within (n + 1) (.step write next)

section
variable {R : σ → σ → Prop} {p : Prog σ ε α} {f : α → Prog σ ε β} {m n : ℕ}

theorem quiet_read (look : σ → Except ε α) : Quiet (read look) :=
  .step (fun _ => rfl) fun _ => .done _

theorem Quiet.bind (hp : Quiet p) (hf : ∀ a, Quiet (f a)) : Quiet (p >>= f) := by
  induction hp with
  | done result =>
    cases result with
    | ok a => exact hf a
    | error e => exact .done _
  | step hwrite _ ih => exact .step hwrite ih

theorem Quiet.oneWrite_bind (hp : Quiet p) (hf : ∀ a, OneWrite (f a)) : OneWrite (p >>= f) := by
  induction hp with
  | done result =>
    cases result with
    | ok a => exact hf a
    | error e => exact .done _
  | step hwrite _ ih => exact .step hwrite ih

/-- A call whose answer is only passed on. -/
theorem oneWrite_call (operation : σ → Except ε (α × σ)) (g : α → β) :
    OneWrite (call operation >>= fun a => pure (g a)) := by
  refine .last fun s => ⟨((operation s).map Prod.fst).map g, ?_⟩
  show (Prog.done ((operation s).map Prod.fst)).bind (fun a => pure (g a)) = _
  cases operation s with
  | ok r => rfl
  | error e => rfl

theorem OneWrite.map (hp : OneWrite p) (g : α → β) : OneWrite (p >>= fun a => pure (g a)) := by
  induction hp with
  | done result =>
    cases result with
    | ok a => exact .done _
    | error e => exact .done _
  | step hwrite _ ih => exact .step hwrite ih
  | @last write next hlast =>
    refine .last fun s => ?_
    obtain ⟨result, hnext⟩ := hlast s
    show ∃ r, (next s).bind (fun a => pure (g a)) = .done r
    rw [hnext]
    cases result with
    | ok a => exact ⟨_, rfl⟩
    | error e => exact ⟨_, rfl⟩

theorem Quiet.guarantees (hrefl : ∀ s, R s s) (hp : Quiet p) (s : σ) : Guarantees R p s := by
  induction hp generalizing s with
  | done result => exact .done result s
  | step hwrite _ ih =>
    refine .step (fun t _ => ?_) fun t _ => ih t _
    rw [hwrite t]
    exact hrefl t

theorem guarantees_call {operation : σ → Except ε (α × σ)} {s : σ} (hrefl : ∀ s, R s s)
    (h : ∀ t a t', R s t → operation t = .ok (a, t') → R t t') :
    Guarantees R (call operation) s := by
  refine .step (fun t hst => ?_) fun t _ => .done _ _
  cases ht : operation t with
  | ok r =>
    rw [written_of_ok ht]
    exact h t _ _ hst ht
  | error e =>
    rw [written_of_error ht]
    exact hrefl t

theorem always_read (hrefl : ∀ s, R s s) (look : σ → Except ε α) : Always R (read look) :=
  .step hrefl fun _ => .done _

theorem always_call {operation : σ → Except ε (α × σ)} (hrefl : ∀ s, R s s)
    (h : ∀ s a s', operation s = .ok (a, s') → R s s') : Always R (call operation) := by
  refine .step (fun s => ?_) fun _ => .done _
  cases hs : operation s with
  | ok r =>
    rw [written_of_ok hs]
    exact h s _ _ hs
  | error e =>
    rw [written_of_error hs]
    exact hrefl s

theorem Always.bind (hp : Always R p) (hf : ∀ a, Always R (f a)) : Always R (p >>= f) := by
  induction hp with
  | done result =>
    cases result with
    | ok a => exact hf a
    | error e => exact .done _
  | step hwrite _ ih => exact .step hwrite ih

theorem Always.mono {S : σ → σ → Prop} (hp : Always S p) (h : ∀ s t, S s t → R s t) :
    Always R p := by
  induction hp with
  | done result => exact .done result
  | step hwrite _ ih => exact .step (fun s => h s _ (hwrite s)) ih

/-- What a program reads and its first part returns, its rest goes on with. -/
theorem Always.of_read_bind {look : σ → Except ε α} {s : σ} {a : α}
    (h : Always R (read look >>= f)) (hs : look s = .ok a) : Always R (f a) := by
  generalize hp : (read look >>= f) = p at h
  cases h with
  | done result => cases hp
  | step _ hnext =>
    cases hp
    have hrest : Always R ((Prog.done (look s)).bind f) := hnext s
    rw [hs] at hrest
    exact hrest

/-- An invariant that the relation keeps may be used to show that the steps are related. -/
theorem Always.guarantees_of {S : σ → σ → Prop} {I : σ → Prop} {s : σ} (hp : Always S p)
    (hkeep : ∀ s t, R s t → I s → I t) (hstep : ∀ s t, I s → S s t → R s t) (hs : I s) :
    Guarantees R p s := by
  induction hp generalizing s with
  | done result => exact .done result s
  | step hwrite _ ih =>
    refine .step (fun t hst => hstep t _ (hkeep s t hst hs) (hwrite t)) fun t hst => ?_
    have ht := hkeep s t hst hs
    exact ih t (hkeep t _ (hstep t _ ht (hwrite t)) ht)

theorem Always.guarantees {S : σ → σ → Prop} (hp : Always S p) (hstep : ∀ s t, S s t → R s t)
    (s : σ) : Guarantees R p s :=
  hp.guarantees_of (I := fun _ => True) (fun _ _ _ h => h) (fun s t _ => hstep s t) trivial

/-- What a program guarantees, it guarantees after the steps of others. -/
theorem Guarantees.other [IsTrans σ R] {s t : σ} (hp : Guarantees R p s) (hst : R s t) :
    Guarantees R p t := by
  cases hp with
  | done result => exact .done result t
  | step hwrite hnext =>
    exact .step (fun u htu => hwrite u (trans_of R hst htu))
      fun u htu => hnext u (trans_of R hst htu)

theorem Within.mono (h : Within m p) (hmn : m ≤ n) : Within n p := by
  induction h generalizing n with
  | done m result => exact .done n result
  | step _ ih =>
    obtain ⟨k, rfl⟩ := Nat.exists_eq_add_of_lt hmn
    exact .step fun s => ih s (by omega)

theorem Within.bind (hp : Within m p) (hf : ∀ a, Within n (f a)) : Within (m + n) (p >>= f) := by
  induction hp with
  | done m result =>
    cases result with
    | ok a => exact (hf a).mono (Nat.le_add_left n m)
    | error e => exact .done _ _
  | @step m write next _ ih =>
    rw [Nat.succ_add]
    exact .step ih

theorem within_read (look : σ → Except ε α) : Within 1 (read look) := .step fun _ => .done _ _

theorem within_call (operation : σ → Except ε (α × σ)) : Within 1 (call operation) :=
  .step fun _ => .done _ _

end
end Prog

open Prog

/-- A store and the programs that share it. -/
structure Config (ι σ ε α : Type) where
  store : σ
  progs : ι → Prog σ ε α

/-- Who took a step, and the store before and after it. -/
structure Event (ι σ : Type) where
  actor : Option ι
  before : σ
  after : σ

/-- The steps of a run: of its programs in any order, and of an environment. -/
inductive Run [DecidableEq ι] (env : σ → σ → Prop) :
    Config ι σ ε α → List (Event ι σ) → Config ι σ ε α → Prop
  | refl (c) : Run env c [] c
  | prog {c c' events} (i : ι) {write next} (hi : c.progs i = .step write next)
      (hrest : Run env ⟨write c.store, Function.update c.progs i (next c.store)⟩ events c') :
      Run env c (⟨some i, c.store, write c.store⟩ :: events) c'
  | env {c c' events s} (hs : env c.store s) (hrest : Run env ⟨s, c.progs⟩ events c') :
      Run env c (⟨none, c.store, s⟩ :: events) c'

/-- The run that takes the programs in a given order; one that has ended is passed over. -/
def play [DecidableEq ι] : List ι → Config ι σ ε α → List (Event ι σ) × Config ι σ ε α
  | [], c => ([], c)
  | i :: schedule, c =>
    match c.progs i with
    | .done _ => play schedule c
    | .step write next =>
      let rest := play schedule ⟨write c.store, Function.update c.progs i (next c.store)⟩
      (⟨some i, c.store, write c.store⟩ :: rest.1, rest.2)

/-- The steps one program took. -/
def own [DecidableEq ι] (i : ι) (events : List (Event ι σ)) : List (σ × σ) :=
  (events.filter (·.actor = some i)).map fun e => (e.before, e.after)

/-- None of the steps changed the store. -/
def Unchanged (steps : List (σ × σ)) : Prop := ∀ step ∈ steps, step.2 = step.1

theorem unchanged_cons {steps : List (σ × σ)} {s : σ} (hsteps : Unchanged steps) :
    Unchanged ((s, s) :: steps) := List.forall_mem_cons.mpr ⟨rfl, hsteps⟩

theorem unchanged_append {steps steps' : List (σ × σ)} (hsteps : Unchanged steps)
    (hsteps' : Unchanged steps') : Unchanged (steps ++ steps') := by
  intro step hstep
  rcases List.mem_append.mp hstep with hleft | hright
  · exact hsteps step hleft
  · exact hsteps' step hright

/-- One program from `p` at `s` to `p'` at `s'`, through its own steps with others between them. -/
inductive Thread (others : σ → σ → Prop) :
    Prog σ ε α → σ → List (σ × σ) → Prog σ ε α → σ → Prop
  | refl (p s) : Thread others p s [] p s
  | other {p s s₁ steps p' s'} (hs : others s s₁) (hrest : Thread others p s₁ steps p' s') :
      Thread others p s steps p' s'
  | step {write next s steps p' s'} (hrest : Thread others (next s) (write s) steps p' s') :
      Thread others (.step write next) s ((s, write s) :: steps) p' s'

section
variable [DecidableEq ι] {env R : σ → σ → Prop} {c c₁ c' : Config ι σ ε α}
  {events events' : List (Event ι σ)} {i : ι}

theorem run_play (env : σ → σ → Prop) (schedule : List ι) (c : Config ι σ ε α) :
    Run env c (play schedule c).1 (play schedule c).2 := by
  induction schedule generalizing c with
  | nil => exact .refl c
  | cons i schedule ih =>
    cases hi : c.progs i with
    | done result =>
      simp only [play, hi]
      exact ih c
    | step write next =>
      simp only [play, hi]
      exact .prog i hi (ih _)

theorem Run.append (h : Run env c events c₁) (h' : Run env c₁ events' c') :
    Run env c (events ++ events') c' := by
  induction h with
  | refl => exact h'
  | prog i hi _ ih => exact .prog i hi (ih h')
  | env hs _ ih => exact .env hs (ih h')

theorem Run.of_read {γ : Type} {look : σ → Except ε γ} {f : γ → Prog σ ε α} {a : γ}
    (hi : c.progs i = read look >>= f) (hlook : look c.store = .ok a)
    (hrest : Run env ⟨c.store, Function.update c.progs i (f a)⟩ events c') :
    Run env c (⟨some i, c.store, c.store⟩ :: events) c' := by
  refine .prog i hi ?_
  show Run env ⟨c.store, Function.update c.progs i ((Prog.done (look c.store)).bind f)⟩ events c'
  rw [hlook]
  exact hrest

theorem Run.of_call {γ : Type} {operation : σ → Except ε (γ × σ)} {f : γ → Prog σ ε α} {a : γ}
    {s : σ} (hi : c.progs i = call operation >>= f) (hcall : operation c.store = .ok (a, s))
    (hrest : Run env ⟨s, Function.update c.progs i (f a)⟩ events c') :
    Run env c (⟨some i, c.store, s⟩ :: events) c' := by
  have hwritten : written operation c.store = s := written_of_ok hcall
  subst hwritten
  refine .prog i hi ?_
  show Run env ⟨_, Function.update c.progs i
    ((Prog.done ((operation c.store).map Prod.fst)).bind f)⟩ events c'
  rw [hcall]
  exact hrest

theorem own_append : own i (events ++ events') = own i events ++ own i events' := by
  simp [own]

/-- A program that is left alone runs to its end. -/
theorem Run.exists_end (env : σ → σ → Prop) {n : ℕ} (hp : Within n (c.progs i)) :
    ∃ events c' result, Run env c events c' ∧ c'.progs i = .done result ∧
      ∀ e ∈ events, e.actor = some i := by
  generalize hi : c.progs i = p at hp
  induction hp generalizing c with
  | done n result => exact ⟨[], c, result, .refl c, hi, nofun⟩
  | @step n write next _ ih =>
    obtain ⟨events, c', result, hrun, hdone, hactor⟩ :=
      ih c.store (c := ⟨write c.store, Function.update c.progs i (next c.store)⟩)
        (Function.update_self ..)
    exact ⟨_, c', result, .prog i hi hrun, hdone, List.forall_mem_cons.mpr ⟨rfl, hactor⟩⟩

/-- Its first step is at the store the run starts with. -/
theorem Run.own_head (h : Run env c events c') (hactor : ∀ e ∈ events, e.actor = some i)
    {step : σ × σ} {rest : List (σ × σ)} (hown : own i events = step :: rest) :
    step.1 = c.store := by
  cases h with
  | refl => cases hown
  | prog j _ _ =>
    cases hactor _ List.mem_cons_self
    rw [own, List.filter_cons_of_pos (by simp), List.map_cons] at hown
    cases hown
    rfl
  | env => cases hactor _ List.mem_cons_self

theorem guarantees_update [IsPreorder σ R] (hg : ∀ j, Guarantees R (c.progs j) c.store)
    {write : σ → σ} {next : σ → Prog σ ε α} (hi : c.progs i = .step write next) :
    R c.store (write c.store) ∧
      ∀ j, Guarantees R (Function.update c.progs i (next c.store) j) (write c.store) := by
  have hstep := hg i
  rw [hi] at hstep
  cases hstep with
  | step hwrite hnext =>
    have hwritten : R c.store (write c.store) := hwrite c.store (refl_of R c.store)
    refine ⟨hwritten, fun j => ?_⟩
    by_cases hj : j = i
    · subst hj
      rw [Function.update_self]
      exact hnext c.store (refl_of R c.store)
    · rw [Function.update_of_ne hj]
      exact (hg j).other hwritten

/-- What all programs guarantee, and the environment keeps to, the whole run keeps to. -/
theorem Run.related [IsPreorder σ R] (h : Run env c events c')
    (hg : ∀ j, Guarantees R (c.progs j) c.store) (henv : ∀ s s', env s s' → R s s') :
    R c.store c'.store ∧ ∀ j, Guarantees R (c'.progs j) c'.store := by
  induction h with
  | refl c => exact ⟨refl_of R c.store, hg⟩
  | prog i hi _ ih =>
    obtain ⟨hwritten, hupdated⟩ := guarantees_update hg hi
    obtain ⟨hrest, hprogs⟩ := ih hupdated
    exact ⟨trans_of R hwritten hrest, hprogs⟩
  | env hs _ ih =>
    obtain ⟨hrest, hprogs⟩ := ih fun j => (hg j).other (henv _ _ hs)
    exact ⟨trans_of R (henv _ _ hs) hrest, hprogs⟩

theorem Run.always (h : Run env c events c') (hp : ∀ j, Always R (c.progs j))
    (henv : ∀ s s', env s s' → R s s') :
    (∀ e ∈ events, R e.before e.after) ∧ ∀ j, Always R (c'.progs j) := by
  induction h with
  | refl c => exact ⟨fun e he => absurd he List.not_mem_nil, hp⟩
  | @prog c c' events i write next hi _ ih =>
    have hstep := hp i
    rw [hi] at hstep
    cases hstep with
    | step hwrite hnext =>
      have hupdated : ∀ j, Always R (Function.update c.progs i (next c.store) j) := by
        intro j
        by_cases hj : j = i
        · subst hj
          rw [Function.update_self]
          exact hnext c.store
        · rw [Function.update_of_ne hj]
          exact hp j
      obtain ⟨hevents, hprogs⟩ := ih hupdated
      exact ⟨List.forall_mem_cons.mpr ⟨hwrite c.store, hevents⟩, hprogs⟩
  | env hs _ ih =>
    obtain ⟨hevents, hprogs⟩ := ih hp
    exact ⟨List.forall_mem_cons.mpr ⟨henv _ _ hs, hevents⟩, hprogs⟩

/-- A run all of whose steps are of one kind. -/
theorem Run.related_of_events [IsPreorder σ R] (h : Run env c events c')
    (hevents : ∀ e ∈ events, R e.before e.after) : R c.store c'.store := by
  induction h with
  | refl c => exact refl_of R c.store
  | prog _ _ _ ih =>
    obtain ⟨hstep, hrest⟩ := List.forall_mem_cons.mp hevents
    exact trans_of R hstep (ih hrest)
  | env _ _ ih =>
    obtain ⟨hstep, hrest⟩ := List.forall_mem_cons.mp hevents
    exact trans_of R hstep (ih hrest)

/-- A run all of whose steps are of one kind, as one of its programs sees it. -/
theorem Run.thread_of_events (h : Run env c events c')
    (hevents : ∀ e ∈ events, R e.before e.after) (i : ι) :
    Thread R (c.progs i) c.store (own i events) (c'.progs i) c'.store := by
  induction h with
  | refl c => exact .refl _ _
  | @prog c c' events j write next hj _ ih =>
    obtain ⟨hstep, hrest⟩ := List.forall_mem_cons.mp hevents
    have hthread := ih hrest
    by_cases hij : i = j
    · subst hij
      simp only [Function.update_self] at hthread
      have hown : own i (⟨some i, c.store, write c.store⟩ :: events) =
          (c.store, write c.store) :: own i events := by
        simp [own]
      rw [hj, hown]
      exact .step hthread
    · simp only [Function.update_of_ne hij] at hthread
      have hown : own i (⟨some j, c.store, write c.store⟩ :: events) = own i events := by
        simp [own, Ne.symm hij]
      rw [hown]
      exact .other hstep hthread
  | @env c c' events s _ _ ih =>
    obtain ⟨hstep, hrest⟩ := List.forall_mem_cons.mp hevents
    have hown : own i (⟨none, c.store, s⟩ :: events) = own i events := by
      simp [own]
    rw [hown]
    exact .other hstep (ih hrest)

/-- What leads to a step of such a run, and from it. -/
theorem Run.related_around [IsPreorder σ R] (h : Run env c events c')
    (hevents : ∀ e ∈ events, R e.before e.after) {e : Event ι σ} (he : e ∈ events) :
    R c.store e.before ∧ R e.after c'.store := by
  induction h with
  | refl c => exact absurd he List.not_mem_nil
  | prog _ _ hrest ih =>
    obtain ⟨hstep, htail⟩ := List.forall_mem_cons.mp hevents
    rcases List.mem_cons.mp he with rfl | he
    · exact ⟨refl_of R _, hrest.related_of_events htail⟩
    · obtain ⟨hbefore, hafter⟩ := ih htail he
      exact ⟨trans_of R hstep hbefore, hafter⟩
  | env _ hrest ih =>
    obtain ⟨hstep, htail⟩ := List.forall_mem_cons.mp hevents
    rcases List.mem_cons.mp he with rfl | he
    · exact ⟨refl_of R _, hrest.related_of_events htail⟩
    · obtain ⟨hbefore, hafter⟩ := ih htail he
      exact ⟨trans_of R hstep hbefore, hafter⟩

theorem Run.split (h : Run env c (events ++ events') c') :
    ∃ c₁, Run env c events c₁ ∧ Run env c₁ events' c' := by
  induction events generalizing c with
  | nil => exact ⟨c, .refl c, h⟩
  | cons e events ih =>
    cases h with
    | prog i hi hrest =>
      obtain ⟨c₁, hfirst, hsecond⟩ := ih hrest
      exact ⟨c₁, .prog i hi hfirst, hsecond⟩
    | env hs hrest =>
      obtain ⟨c₁, hfirst, hsecond⟩ := ih hrest
      exact ⟨c₁, .env hs hfirst, hsecond⟩

theorem Run.uncons {e : Event ι σ} (h : Run env c (e :: events) c') :
    c.store = e.before ∧ ∃ c₁, c₁.store = e.after ∧ Run env c₁ events c' := by
  cases h with
  | prog _ _ hrest => exact ⟨rfl, _, rfl, hrest⟩
  | env _ hrest => exact ⟨rfl, _, rfl, hrest⟩

/-- Where in a run a step of one program is. -/
theorem own_eq_append {step : σ × σ} {before after : List (σ × σ)}
    (h : own i events = before ++ step :: after) :
    ∃ first e last, events = first ++ e :: last ∧ own i first = before ∧ e.actor = some i ∧
      (e.before, e.after) = step ∧ own i last = after := by
  obtain ⟨xs, ys, hfilter, hbefore, hrest⟩ := List.map_eq_append_iff.mp h
  obtain ⟨e, zs, rfl, hstep, hafter⟩ := List.map_eq_cons_iff.mp hrest
  obtain ⟨first, rest, rfl, rfl, hcons⟩ := List.filter_eq_append_iff.mp hfilter
  obtain ⟨skipped, last, rfl, hskipped, hactor, rfl⟩ := List.filter_eq_cons_iff.mp hcons
  refine ⟨first ++ skipped, e, last, by simp, ?_, by simpa using hactor, hstep, hafter⟩
  have hnone : skipped.filter (·.actor = some i) = [] := List.filter_eq_nil_iff.mpr hskipped
  rw [own, List.filter_append, hnone, List.append_nil, hbefore]

theorem mem_own {step : σ × σ} :
    step ∈ own i events ↔ ∃ e ∈ events, e.actor = some i ∧ (e.before, e.after) = step := by
  simp [own, and_assoc]

theorem own_cons_self {e : Event ι σ} (h : e.actor = some i) :
    own i (e :: events) = (e.before, e.after) :: own i events := by
  simp [own, h]

theorem own_eq_nil : own i events = [] ↔ ∀ e ∈ events, e.actor ≠ some i := by
  simp [own]

instance isPreorder_true : IsPreorder σ fun _ _ : σ => True where
  refl _ := trivial
  trans _ _ _ _ _ := trivial

theorem Run.env_of_none (h : Run env c events c') {e : Event ι σ} (he : e ∈ events)
    (hactor : e.actor = none) : env e.before e.after := by
  induction h with
  | refl => exact absurd he List.not_mem_nil
  | prog i _ _ ih =>
    rcases List.mem_cons.mp he with rfl | he
    · cases hactor
    · exact ih he
  | env hs _ ih =>
    rcases List.mem_cons.mp he with rfl | he
    · exact hs
    · exact ih he

/-- The steps that one program took of its own. -/
theorem Run.own_thread (h : Run env c events c') (i : ι) :
    Thread (fun _ _ => True) (c.progs i) c.store (own i events) (c'.progs i) c'.store :=
  h.thread_of_events (fun _ _ => trivial) i

/-- A run as one of its programs sees it. -/
theorem Run.thread [IsPreorder σ R] (h : Run env c events c')
    (hg : ∀ j, Guarantees R (c.progs j) c.store) (henv : ∀ s s', env s s' → R s s') (i : ι) :
    Thread R (c.progs i) c.store (own i events) (c'.progs i) c'.store := by
  induction h with
  | refl c => exact .refl _ _
  | @prog c c' events j write next hj _ ih =>
    obtain ⟨hwritten, hupdated⟩ := guarantees_update hg hj
    have hrest := ih hupdated
    by_cases hij : i = j
    · subst hij
      simp only [Function.update_self] at hrest
      rw [hj]
      have hown : own i (⟨some i, c.store, write c.store⟩ :: events) =
          (c.store, write c.store) :: own i events := by
        simp [own]
      rw [hown]
      exact .step hrest
    · simp only [Function.update_of_ne hij] at hrest
      have hown : own i (⟨some j, c.store, write c.store⟩ :: events) = own i events := by
        simp [own, Ne.symm hij]
      rw [hown]
      exact .other hwritten hrest
  | @env c c' events s hs _ ih =>
    have hown : own i (⟨none, c.store, s⟩ :: events) = own i events := by
      simp [own]
    rw [hown]
    exact .other (henv _ _ hs) (ih fun j => (hg j).other (henv _ _ hs))

end

section
variable {R : σ → σ → Prop} {p p' : Prog σ ε α} {f : α → Prog σ ε β} {s s' : σ}
  {steps : List (σ × σ)}

theorem Thread.related [IsPreorder σ R] (h : Thread R p s steps p' s') (hp : Guarantees R p s) :
    R s s' := by
  induction h with
  | refl _ s => exact refl_of R s
  | other hs _ ih => exact trans_of R hs (ih (hp.other hs))
  | @step write next s steps p' s' _ ih =>
    cases hp with
    | step hwrite hnext =>
      exact trans_of R (hwrite s (refl_of R s)) (ih (hnext s (refl_of R s)))

/-- The rest of a sequence may rely on how its first part ended. -/
theorem Prog.Guarantees.bind (hp : Guarantees R p s)
    (hf : ∀ first a t, Thread R p s first (.done (.ok a)) t → Guarantees R (f a) t) :
    Guarantees R (p >>= f) s := by
  induction hp with
  | done result s =>
    cases result with
    | ok a => exact hf [] a s (.refl _ _)
    | error e => exact .done _ _
  | step hwrite _ ih =>
    refine .step hwrite fun t hst => ih t hst fun first a u h => ?_
    exact hf _ a u (.other hst (.step h))

theorem Thread.of_done [IsPreorder σ R] {result : Except ε α}
    (h : Thread R (.done result) s steps p' s') : p' = .done result ∧ steps = [] ∧ R s s' := by
  generalize hp : Prog.done result = p at h
  induction h with
  | refl p s => exact ⟨rfl, rfl, refl_of R s⟩
  | other hs _ ih =>
    obtain ⟨hdone, hsteps, hrest⟩ := ih hp
    exact ⟨hdone, hsteps, trans_of R hs hrest⟩
  | step => cases hp

theorem Thread.of_nil (h : Thread R p s [] p' s') : p' = p := by
  generalize hsteps : ([] : List (σ × σ)) = steps at h
  induction h with
  | refl => rfl
  | other _ _ ih => exact ih hsteps
  | step => cases hsteps

/-- A program that looks at the store and has ended looked at some store on the way. -/
theorem Thread.of_read [IsPreorder σ R] {look : σ → Except ε α} {result : Except ε α}
    (h : Thread R (read look) s steps (.done result) s') :
    ∃ t, R s t ∧ R t s' ∧ steps = [(t, t)] ∧ look t = result := by
  generalize hp : read look = p at h
  generalize hq : Prog.done result = q at h
  induction h with
  | refl p s =>
    rw [← hp] at hq
    cases hq
  | other hs _ ih =>
    obtain ⟨t, hst, hts, hsteps, hlook⟩ := ih hp hq
    exact ⟨t, trans_of R hs hst, hts, hsteps, hlook⟩
  | @step write next s steps p' s' hrest ih =>
    cases hp
    subst hq
    obtain ⟨hdone, hsteps, hlast⟩ := hrest.of_done
    subst hsteps
    cases hdone
    exact ⟨s, refl_of R s, hlast, rfl, rfl⟩

theorem Thread.of_call [IsPreorder σ R] {operation : σ → Except ε (α × σ)} {result : Except ε α}
    (h : Thread R (call operation) s steps (.done result) s') :
    ∃ t, R s t ∧ R (written operation t) s' ∧ steps = [(t, written operation t)] ∧
      (operation t).map Prod.fst = result := by
  generalize hp : call operation = p at h
  generalize hq : Prog.done result = q at h
  induction h with
  | refl p s =>
    rw [← hp] at hq
    cases hq
  | other hs _ ih =>
    obtain ⟨t, hst, hts, hsteps, hresult⟩ := ih hp hq
    exact ⟨t, trans_of R hs hst, hts, hsteps, hresult⟩
  | @step write next s steps p' s' hrest ih =>
    cases hp
    subst hq
    obtain ⟨hdone, hsteps, hlast⟩ := hrest.of_done
    subst hsteps
    cases hdone
    exact ⟨s, refl_of R s, hlast, rfl, rfl⟩

/-- A sequence that has ended failed in its first part, or passed through its end. -/
theorem Thread.of_bind {result : Except ε β} (h : Thread R (p >>= f) s steps (.done result) s') :
    (∃ e, result = .error e ∧ Thread R p s steps (.done (.error e)) s') ∨
      ∃ a first second t, steps = first ++ second ∧ Thread R p s first (.done (.ok a)) t ∧
        Thread R (f a) t second (.done result) s' := by
  generalize hb : (p >>= f) = b at h
  generalize hq : Prog.done result = q at h
  induction h generalizing p with
  | refl b s =>
    cases p with
    | done r =>
      cases r with
      | ok a =>
        have hfa : f a = .done result := hb.trans hq.symm
        refine Or.inr ⟨a, [], [], s, rfl, .refl _ _, ?_⟩
        rw [hfa, hq]
        exact .refl _ _
      | error e =>
        have hresult : Prog.done (.error e) = Prog.done result := hb.trans hq.symm
        cases hresult
        exact Or.inl ⟨e, rfl, .refl _ _⟩
    | step write next =>
      have hstep : Prog.step write (fun s => (next s).bind f) = .done result := hb.trans hq.symm
      cases hstep
  | @other b s s₁ steps b' s' hs _ ih =>
    rcases ih hb hq with ⟨e, rfl, hfail⟩ | ⟨a, first, second, t, rfl, hfirst, hsecond⟩
    · exact Or.inl ⟨e, rfl, .other hs hfail⟩
    · exact Or.inr ⟨a, first, second, t, rfl, .other hs hfirst, hsecond⟩
  | @step write next s steps b' s' hrest ih =>
    cases p with
    | done r =>
      cases r with
      | ok a =>
        have hfa : f a = .step write next := hb
        refine Or.inr ⟨a, [], _, s, rfl, .refl _ _, ?_⟩
        rw [hfa]
        exact .step hrest
      | error e => cases hb
    | step write' next' =>
      have hstep : Prog.step write' (fun s => (next' s).bind f) = .step write next := hb
      cases hstep
      rcases ih rfl hq with ⟨e, rfl, hfail⟩ | ⟨a, first, second, t, rfl, hfirst, hsecond⟩
      · exact Or.inl ⟨e, rfl, .step hfail⟩
      · exact Or.inr ⟨a, _ :: first, second, t, rfl, .step hfirst, hsecond⟩

theorem Thread.of_bind_ok {b : β} (h : Thread R (p >>= f) s steps (.done (.ok b)) s') :
    ∃ a first second t, steps = first ++ second ∧ Thread R p s first (.done (.ok a)) t ∧
      Thread R (f a) t second (.done (.ok b)) s' := by
  rcases h.of_bind with ⟨e, hresult, -⟩ | hok
  · cases hresult
  · exact hok

/-- A step that does not touch the store has returned at once. -/
theorem Thread.of_lift [IsPreorder σ R] {x : Except ε α} {a : α}
    (h : Thread R (Prog.lift x) s steps (.done (.ok a)) s') : x = .ok a ∧ steps = [] := by
  obtain ⟨hdone, hsteps, -⟩ := Thread.of_done h
  cases hdone
  exact ⟨rfl, hsteps⟩

/-- A program that begins with a look at the store goes on with what it saw, or has ended. -/
theorem Thread.of_read_bind [IsPreorder σ R] {look : σ → Except ε α} {p' : Prog σ ε β}
    (h : Thread R (read look >>= f) s steps p' s') : steps = [] ∨ ∃ t rest, steps = (t, t) :: rest ∧
      ((∃ a, look t = .ok a ∧ Thread R (f a) t rest p' s') ∨ rest = []) := by
  generalize hp : (read look >>= f) = p at h
  induction h with
  | refl => exact Or.inl rfl
  | other _ _ ih => exact ih hp
  | @step write next s steps p' s' hrest _ =>
    cases hp
    refine Or.inr ⟨s, steps, rfl, ?_⟩
    have hbind : Thread R ((Prog.done (look s)).bind f) s steps p' s' := hrest
    cases hlook : look s with
    | ok a =>
      rw [hlook] at hbind
      exact Or.inl ⟨a, rfl, hbind⟩
    | error e =>
      rw [hlook] at hbind
      exact Or.inr (Thread.of_done hbind).2.1

theorem Thread.append_other {t : σ} (h : Thread R p s steps p' t) (hts : R t s') :
    Thread R p s steps p' s' := by
  induction h with
  | refl p t => exact .other hts (.refl p s')
  | other hs _ ih => exact .other hs (ih hts)
  | step _ ih => exact .step (ih hts)

/-- A program whose answer is only passed on. -/
theorem Thread.of_map [IsPreorder σ R] {g : α → β} {result : Except ε β}
    (h : Thread R (p >>= fun a => pure (g a)) s steps (.done result) s') :
    ∃ r, result = r.map g ∧ Thread R p s steps (.done r) s' := by
  rcases h.of_bind with ⟨e, rfl, hfail⟩ | ⟨a, first, second, t, rfl, hfirst, hrest⟩
  · exact ⟨.error e, rfl, hfail⟩
  · obtain ⟨hdone, rfl, hts'⟩ := hrest.of_done
    cases hdone
    rw [List.append_nil]
    exact ⟨.ok a, rfl, hfirst.append_other hts'⟩

theorem Thread.unchanged (h : Thread R p s steps p' s') (hp : Quiet p) : Unchanged steps := by
  induction h with
  | refl => exact nofun
  | other _ _ ih => exact ih hp
  | step _ ih =>
    cases hp with
    | step hwrite hnext => exact List.forall_mem_cons.mpr ⟨hwrite _, ih (hnext _)⟩

/-- A program that writes at most once has written nothing until it ends. -/
theorem Thread.unchanged_or_done [IsPreorder σ R] (h : Thread R p s steps p' s')
    (hp : OneWrite p) : Unchanged steps ∨ ∃ result, p' = .done result := by
  induction h with
  | refl => exact Or.inl nofun
  | other _ _ ih => exact ih hp
  | @step write next s steps p' s' hrest ih =>
    cases hp with
    | step hwrite hnext =>
      rcases ih (hnext s) with hunchanged | hdone
      · exact Or.inl (List.forall_mem_cons.mpr ⟨hwrite s, hunchanged⟩)
      · exact Or.inr hdone
    | last hlast =>
      obtain ⟨result, hnext⟩ := hlast s
      rw [hnext] at hrest
      exact Or.inr ⟨result, hrest.of_done.1⟩

theorem Thread.always {S : σ → σ → Prop} (h : Thread R p s steps p' s') (hp : Always S p) :
    ∀ step ∈ steps, S step.1 step.2 := by
  induction h with
  | refl => exact fun _ hstep => absurd hstep List.not_mem_nil
  | other _ _ ih => exact ih hp
  | step _ ih =>
    cases hp with
    | step hwrite hnext => exact List.forall_mem_cons.mpr ⟨hwrite _, ih (hnext _)⟩

/-- The steps that a program may still take. -/
theorem Thread.within {n : ℕ} (h : Thread R p s steps p' s') (hp : Within n p) :
    steps.length ≤ n ∧ Within (n - steps.length) p' := by
  induction h generalizing n with
  | refl => exact ⟨Nat.zero_le n, hp⟩
  | other _ _ ih => exact ih hp
  | step _ ih =>
    cases hp with
    | step hnext =>
      obtain ⟨hle, hwithin⟩ := ih (hnext _)
      rw [List.length_cons, Nat.add_sub_add_right]
      exact ⟨Nat.succ_le_succ hle, hwithin⟩

/-- After that many steps it has ended. -/
theorem Thread.done_of_length {n : ℕ} (h : Thread R p s steps p' s') (hp : Within n p)
    (hn : n ≤ steps.length) : ∃ result, p' = .done result := by
  obtain ⟨hle, hwithin⟩ := h.within hp
  rw [Nat.sub_eq_zero_of_le hn] at hwithin
  cases hwithin with
  | done _ result => exact ⟨result, rfl⟩

end

end Interleaving
