import Mathlib.Data.List.Forall2

/-! Fallible code as `Except`: guards, optional steps, loops over lists, and the
inversion rules that turn a successful run into the conditions it passed. -/
namespace Guarded

variable {ε α β γ : Type}

/-- Fail with `e` when the offending condition holds. -/
def raiseIf (c : Prop) [Decidable c] (e : ε) : Except ε Unit :=
  if c then .error e else .ok ()

/-- Run the checks only when the condition holds. -/
def whenever (c : Prop) [Decidable c] (body : Except ε Unit) : Except ε Unit :=
  if c then body else .ok ()

/-- Run the checks on an optional value when it is present. -/
def whenSome (o : Option α) (body : α → Except ε Unit) : Except ε Unit :=
  match o with
  | some a => body a
  | none => .ok ()

/-- Unwrap an optional value or fail. -/
def need (o : Option α) (e : ε) : Except ε α :=
  match o with
  | some a => .ok a
  | none => .error e

/-- Check every element from left to right, stopping at the first failure. -/
def each : List α → (α → Except ε Unit) → Except ε Unit
  | [], _ => .ok ()
  | a :: as, f => do
    f a
    each as f

/-- Collect the results of a fallible map from left to right. -/
def collect : List α → (α → Except ε β) → Except ε (List β)
  | [], _ => .ok []
  | a :: as, f => do
    let b ← f a
    let bs ← collect as f
    return b :: bs

/-- Keep the elements that pass a fallible test, from left to right. -/
def keepIf : List α → (α → Except ε Bool) → Except ε (List α)
  | [], _ => .ok []
  | a :: as, f => do
    let keep ← f a
    let rest ← keepIf as f
    return if keep then a :: rest else rest

/-- Whether one of the conditions holds; each is tested only when none before it holds. -/
def anyOf : List (Except ε Bool) → Except ε Bool
  | [] => .ok false
  | c :: cs => do
    let holds ← c
    if holds then return true else anyOf cs

/-- Compare a value with one that may fail to be computed. -/
def differs [DecidableEq α] (a : α) (x : Except ε α) : Except ε Bool := do
  let b ← x
  return decide (a ≠ b)

/-- Replace any failure by `e`, as a handler that catches everything does. -/
def orFail (x : Except ε α) (e : ε) : Except ε α :=
  match x with
  | .ok a => .ok a
  | .error _ => .error e

/-- Build a value that carries the acceptance of its own checks. -/
def construct {φ β : Type} (check : φ → Except ε Unit)
    (make : (f : φ) → check f = .ok () → β) (f : φ) : Except ε β :=
  match h : check f with
  | .ok () => .ok (make f h)
  | .error e => .error e

theorem bind_eq_ok {x : Except ε α} {f : α → Except ε β} {b : β} :
    (x >>= f) = .ok b ↔ ∃ a, x = .ok a ∧ f a = .ok b := by
  cases x <;> simp [bind, Except.bind]

theorem then_eq_ok {x : Except ε Unit} {f : Unit → Except ε β} {b : β} :
    (x >>= f) = .ok b ↔ x = .ok () ∧ f () = .ok b := by
  cases x <;> simp [bind, Except.bind]

/-- Drops the unit a check returns when `bind_eq_ok` peels a sequence of checks and values. -/
theorem exists_unit {p : Unit → Prop} : (∃ u, p u) ↔ p () :=
  ⟨fun ⟨(), h⟩ => h, fun h => ⟨(), h⟩⟩

theorem pure_eq_ok {a b : α} : (pure a : Except ε α) = .ok b ↔ a = b := by
  simp [pure, Except.pure]

theorem throw_eq_ok {e : ε} {b : α} : (throw e : Except ε α) = .ok b ↔ False := by
  simp [throw, throwThe, MonadExceptOf.throw]

theorem ok_bind {a : α} {f : α → Except ε β} : (Except.ok a >>= f) = f a := rfl

theorem error_bind {e : ε} {f : α → Except ε β} :
    ((Except.error e : Except ε α) >>= f) = .error e := rfl

theorem throw_bind {e : ε} {f : α → Except ε β} :
    ((throw e : Except ε α) >>= f) = .error e := rfl

section
variable {c : Prop} [Decidable c] {e : ε}

theorem raiseIf_eq_ok {u : Unit} : raiseIf c e = .ok u ↔ ¬ c := by
  unfold raiseIf
  split <;> simp_all

theorem raiseIf_of_not (h : ¬ c) : raiseIf c e = .ok () := raiseIf_eq_ok.mpr h

theorem whenever_eq_ok {body : Except ε Unit} {u : Unit} :
    whenever c body = .ok u ↔ (c → body = .ok ()) := by
  unfold whenever
  split <;> simp_all

end

theorem whenSome_eq_ok {o : Option α} {body : α → Except ε Unit} {u : Unit} :
    whenSome o body = .ok u ↔ ∀ a, o = some a → body a = .ok () := by
  cases o <;> simp [whenSome]

theorem need_eq_ok {o : Option α} {e : ε} {a : α} : need o e = .ok a ↔ o = some a := by
  cases o <;> simp [need]

theorem each_eq_ok {as : List α} {f : α → Except ε Unit} {u : Unit} :
    each as f = .ok u ↔ ∀ a ∈ as, f a = .ok () := by
  induction as with
  | nil => simp [each]
  | cons a as ih => simp [each, then_eq_ok, ih]

theorem each_congr {as : List α} {f g : α → Except ε Unit} (h : ∀ a ∈ as, f a = g a) :
    each as f = each as g := by
  induction as with
  | nil => rfl
  | cons a as ih =>
    rw [List.forall_mem_cons] at h
    rw [each, each, h.1, ih h.2]

/-- Checks that fail with one error fail together when one of them does. -/
theorem each_raiseIf {as : List α} {p : α → Prop} [DecidablePred p] {e : ε} :
    each as (fun a => raiseIf (p a) e) = raiseIf (∃ a ∈ as, p a) e := by
  induction as with
  | nil => simp [each, raiseIf]
  | cons a as ih =>
    rw [each, ih]
    by_cases ha : p a
    · simp [raiseIf, ha, error_bind]
    · simp [raiseIf, ha, ok_bind]

theorem anyOf_eq_ok_false {cs : List (Except ε Bool)} :
    anyOf cs = .ok false ↔ ∀ c ∈ cs, c = .ok false := by
  induction cs with
  | nil => simp [anyOf]
  | cons c cs ih =>
    rw [List.forall_mem_cons, ← ih, anyOf]
    cases c with
    | error e => simp [error_bind]
    | ok holds => cases holds <;> simp [ok_bind, pure_eq_ok]

theorem differs_eq_ok_false [DecidableEq α] {a : α} {x : Except ε α} :
    differs a x = .ok false ↔ x = .ok a := by
  simp only [differs, bind_eq_ok, pure_eq_ok, decide_eq_false_iff_not, not_not]
  exact ⟨fun ⟨_, hx, ha⟩ => ha ▸ hx, fun hx => ⟨a, hx, rfl⟩⟩

theorem keepIf_singleton {a : α} {f : α → Except ε Bool} (h : f a = .ok true) :
    keepIf [a] f = .ok [a] := by
  simp only [keepIf, h, ok_bind, if_true]
  rfl

theorem keepIf_of_ok {as : List α} {f : α → Except ε Bool} {p : α → Bool}
    (h : ∀ a ∈ as, f a = .ok (p a)) : keepIf as f = .ok (as.filter p) := by
  induction as with
  | nil => rfl
  | cons a as ih =>
    rw [List.forall_mem_cons] at h
    simp only [keepIf, h.1, ih h.2, ok_bind, List.filter_cons]
    rfl

theorem orFail_eq_ok {x : Except ε α} {e : ε} {a : α} : orFail x e = .ok a ↔ x = .ok a := by
  cases x <;> simp [orFail]

theorem construct_eq_ok {φ β : Type} {check : φ → Except ε Unit}
    {make : (f : φ) → check f = .ok () → β} {f : φ} {b : β} :
    construct check make f = .ok b ↔ ∃ h, b = make f h := by
  unfold construct
  split
  · next h => simp [h, eq_comm]
  · next h => simp [h]

theorem construct_of_ok {φ β : Type} {check : φ → Except ε Unit}
    {make : (f : φ) → check f = .ok () → β} {f : φ} (h : check f = .ok ()) :
    construct check make f = .ok (make f h) :=
  construct_eq_ok.mpr ⟨h, rfl⟩

theorem construct_of_error {φ β : Type} {check : φ → Except ε Unit}
    {make : (f : φ) → check f = .ok () → β} {f : φ} {e : ε} (h : check f = .error e) :
    construct check make f = .error e := by
  unfold construct
  split
  · next hok => rw [hok] at h; cases h
  · next e' herror => rw [herror] at h; cases h; rfl

theorem collect_eq_ok {as : List α} {f : α → Except ε β} {bs : List β} :
    collect as f = .ok bs ↔ List.Forall₂ (fun a b => f a = .ok b) as bs := by
  induction as generalizing bs with
  | nil => cases bs <;> simp [collect, eq_comm, List.forall₂_nil_left_iff]
  | cons a as ih =>
    simp only [collect, bind_eq_ok, pure_eq_ok, ih, List.forall₂_cons_left_iff]
    constructor
    · rintro ⟨b, hb, cs, hcs, rfl⟩
      exact ⟨b, cs, hb, hcs, rfl⟩
    · rintro ⟨b, cs, hb, hcs, rfl⟩
      exact ⟨b, hb, cs, hcs, rfl⟩

section
variable {R : α → β → Prop} {as : List α} {bs : List β}

theorem exists_of_mem_left (h : List.Forall₂ R as bs) : ∀ a ∈ as, ∃ b ∈ bs, R a b := by
  induction h with
  | nil => simp
  | cons hab _ ih =>
    rintro a (_ | ⟨_, ha⟩)
    · exact ⟨_, List.mem_cons_self, hab⟩
    · obtain ⟨b, hb, hr⟩ := ih a ha
      exact ⟨b, List.mem_cons_of_mem _ hb, hr⟩

theorem exists_of_mem_right (h : List.Forall₂ R as bs) : ∀ b ∈ bs, ∃ a ∈ as, R a b :=
  fun b hb => exists_of_mem_left h.flip b hb

theorem exists_forall₂ (h : ∀ a ∈ as, ∃ b, R a b) : ∃ bs, List.Forall₂ R as bs := by
  induction as with
  | nil => exact ⟨[], .nil⟩
  | cons a as ih =>
    rw [List.forall_mem_cons] at h
    obtain ⟨b, hb⟩ := h.1
    obtain ⟨bs, hbs⟩ := ih h.2
    exact ⟨b :: bs, .cons hb hbs⟩

theorem forall₂_getLast {b : β} (h : List.Forall₂ R as bs) (hb : bs.getLast? = some b) :
    ∃ a, as.getLast? = some a ∧ R a b := by
  rw [← List.head?_reverse] at hb
  have hreverse := List.forall₂_reverse_iff.mpr h
  cases hr : bs.reverse with
  | nil => simp [hr] at hb
  | cons _ later =>
    rw [hr, List.head?_cons, Option.some.injEq] at hb
    subst hb
    rw [hr, List.forall₂_cons_right_iff] at hreverse
    obtain ⟨a, earlier, hab, -, has⟩ := hreverse
    refine ⟨a, ?_, hab⟩
    rw [← List.head?_reverse, has, List.head?_cons]

theorem forall₂_append_left {as' : List α} (h : List.Forall₂ R (as ++ as') bs) :
    ∃ first second, List.Forall₂ R as first ∧ List.Forall₂ R as' second ∧ bs = first ++ second := by
  induction as generalizing bs with
  | nil => exact ⟨[], bs, .nil, h, rfl⟩
  | cons a as ih =>
    cases h with
    | cons hab hrest =>
      obtain ⟨first, second, hfirst, hsecond, rfl⟩ := ih hrest
      exact ⟨_ :: first, second, .cons hab hfirst, hsecond, rfl⟩

end

/-- Two lists that collect the same results pair off elements with the same result. -/
theorem forall₂_of_collect {as cs : List α} {f : α → Except ε β} {bs : List β}
    (ha : collect as f = .ok bs) (hc : collect cs f = .ok bs) :
    List.Forall₂ (fun a c => ∃ b, f a = .ok b ∧ f c = .ok b) as cs := by
  rw [collect_eq_ok] at ha hc
  induction ha generalizing cs with
  | nil =>
    cases hc
    exact .nil
  | cons hab _ ih =>
    cases hc with
    | cons hcb hrest => exact .cons ⟨_, hab, hcb⟩ (ih hrest)

theorem collect_congr {as cs : List α} {f : α → Except ε β}
    (h : List.Forall₂ (fun a c => f a = f c) as cs) : collect as f = collect cs f := by
  induction h with
  | nil => rfl
  | cons hac _ ih => simp only [collect, hac, ih]

theorem collect_map {g : β → γ} {as : List α} {f : α → Except ε β} :
    (collect as f).map (List.map g) = collect as fun a => (f a).map g := by
  induction as with
  | nil => rfl
  | cons a as ih =>
    simp only [collect, ← ih]
    cases f a with
    | error e => rfl
    | ok b =>
      cases collect as f with
      | error e => rfl
      | ok bs => rfl

theorem collect_ok_mem {as : List α} {f : α → Except ε β} {bs : List β}
    (h : collect as f = .ok bs) : ∀ a ∈ as, ∃ b, f a = .ok b := by
  intro a ha
  obtain ⟨b, -, hb⟩ := exists_of_mem_left (collect_eq_ok.mp h) a ha
  exact ⟨b, hb⟩

end Guarded
