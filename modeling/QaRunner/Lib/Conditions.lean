import QaRunner.Lib.Guarded

/-! Conditions whose parts may fail to be computed: they are tested from left to right, and no
further than the answer needs. -/
namespace Guarded

variable {ε α : Type} {e : ε} {cs : List (Except ε Bool)}

def test (c : Prop) [Decidable c] : Except ε Bool := .ok (decide c)

/-- Whether all of the conditions hold; each is tested only when all before it hold. -/
def allOf : List (Except ε Bool) → Except ε Bool
  | [] => .ok true
  | c :: cs => do
    let holds ← c
    if holds then allOf cs else return false

/-- Fail with `e` when the condition turns out to hold. -/
def raiseWhen (x : Except ε Bool) (e : ε) : Except ε Unit := do
  let holds ← x
  raiseIf (holds = true) e

section
variable {c d : Prop} [Decidable c] [Decidable d]

theorem raiseIf_congr (h : c ↔ d) : raiseIf c e = raiseIf d e := by
  simp only [raiseIf, h]

theorem raiseIf_or {_ : Decidable (c ∨ d)} :
    raiseIf (c ∨ d) e = (raiseIf c e >>= fun _ => raiseIf d e) := by
  by_cases hc : c
  · simp [raiseIf, hc, error_bind]
  · simp [raiseIf, hc, ok_bind]

theorem raiseWhen_test : raiseWhen (test c) e = raiseIf c e := by
  simp [raiseWhen, test, ok_bind]

theorem raiseWhen_anyOf_test :
    raiseWhen (anyOf (test c :: cs)) e =
      (raiseIf c e >>= fun _ => raiseWhen (anyOf cs) e) := by
  by_cases hc : c
  · simp [raiseWhen, anyOf, test, raiseIf, hc, ok_bind, error_bind, pure, Except.pure]
  · simp [raiseWhen, anyOf, test, raiseIf, hc, ok_bind]

theorem raiseWhen_allOf_test :
    raiseWhen (allOf (test c :: cs)) e = whenever c (raiseWhen (allOf cs) e) := by
  by_cases hc : c
  · simp [raiseWhen, allOf, test, whenever, hc, ok_bind]
  · simp [raiseWhen, allOf, test, raiseIf, whenever, hc, ok_bind, pure, Except.pure]

end

theorem raiseIf_true {_ : Decidable True} : raiseIf True e = .error e := if_pos trivial

theorem raiseIf_false {_ : Decidable False} : raiseIf False e = .ok () := if_neg not_false

theorem map_ok {β : Type} {f : α → β} {a : α} : f <$> (Except.ok a : Except ε α) = .ok (f a) := rfl

theorem bind_ok_unit {x : Except ε Unit} : (x >>= fun _ => .ok ()) = x := by
  cases x with
  | ok _ => rfl
  | error _ => rfl

theorem raiseWhen_anyOf_nil : raiseWhen (anyOf []) e = .ok () := rfl

theorem raiseWhen_allOf_nil : raiseWhen (allOf []) e = .error e := rfl

theorem raiseWhen_allOf_singleton {x : Except ε Bool} :
    raiseWhen (allOf [x]) e = raiseWhen x e := by
  cases x with
  | error _ => rfl
  | ok holds => cases holds <;> rfl

/-- A value computed for one of the conditions is computed before all that follow. -/
theorem raiseWhen_anyOf_bind {x : Except ε α} {f : α → Except ε Bool} :
    raiseWhen (anyOf ((x >>= f) :: cs)) e = (x >>= fun a => raiseWhen (anyOf (f a :: cs)) e) := by
  cases x with
  | ok a => rfl
  | error _ => rfl

theorem raiseWhen_anyOf_map {as : List α} {p : α → Prop} [DecidablePred p] :
    raiseWhen (anyOf (as.map fun a => test (p a))) e = raiseIf (∃ a ∈ as, p a) e := by
  rw [← each_raiseIf]
  induction as with
  | nil => rfl
  | cons a as ih => rw [List.map_cons, raiseWhen_anyOf_test, ih, each]

end Guarded
