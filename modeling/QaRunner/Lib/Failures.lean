import QaRunner.Lib.Guarded

/-! Which errors a fallible computation can end in. -/
namespace Guarded

variable {ε α β : Type} {P : ε → Prop} {x : Except ε α}

/-- Every error that the computation ends in is one of these. -/
def FailsIn (P : ε → Prop) (x : Except ε α) : Prop := ∀ e, x = .error e → P e

theorem failsIn_ok (a : α) : FailsIn P (.ok a : Except ε α) := fun _ h => nomatch h

theorem failsIn_error {e : ε} (h : P e) : FailsIn P (.error e : Except ε α) := by
  intro e' he
  cases he
  exact h

/-- What comes later may rely on what came before it having succeeded. -/
theorem FailsIn.bind {f : α → Except ε β} (hx : FailsIn P x)
    (hf : ∀ a, x = .ok a → FailsIn P (f a)) : FailsIn P (x >>= f) := by
  cases x with
  | ok a => exact hf a rfl
  | error e => exact failsIn_error (hx e rfl)

section
variable {c : Prop} [Decidable c] {e : ε}

theorem failsIn_raiseIf (h : P e) : FailsIn P (raiseIf c e) := by
  unfold raiseIf
  split
  · exact failsIn_error h
  · exact failsIn_ok _

theorem FailsIn.whenever {body : Except ε Unit} (h : c → FailsIn P body) :
    FailsIn P (whenever c body) := by
  unfold Guarded.whenever
  split
  · next hc => exact h hc
  · exact failsIn_ok _

end

theorem FailsIn.whenSome {o : Option α} {body : α → Except ε Unit}
    (h : ∀ a, o = some a → FailsIn P (body a)) : FailsIn P (whenSome o body) := by
  cases o with
  | some a => exact h a rfl
  | none => exact failsIn_ok _

theorem failsIn_need {o : Option α} {e : ε} (h : o = none → P e) : FailsIn P (need o e) := by
  cases o with
  | some a => exact failsIn_ok _
  | none => exact failsIn_error (h rfl)

theorem failsIn_orFail {e : ε} (h : P e) : FailsIn P (orFail x e) := by
  cases x with
  | ok a => exact failsIn_ok _
  | error _ => exact failsIn_error h

theorem FailsIn.each {as : List α} {f : α → Except ε Unit} (h : ∀ a ∈ as, FailsIn P (f a)) :
    FailsIn P (each as f) := by
  induction as with
  | nil => exact failsIn_ok _
  | cons a as ih =>
    rw [List.forall_mem_cons] at h
    exact h.1.bind fun _ _ => ih h.2

theorem FailsIn.collect {as : List α} {f : α → Except ε β} (h : ∀ a ∈ as, FailsIn P (f a)) :
    FailsIn P (collect as f) := by
  induction as with
  | nil => exact failsIn_ok _
  | cons a as ih =>
    rw [List.forall_mem_cons] at h
    exact h.1.bind fun b _ => (ih h.2).bind fun bs _ => failsIn_ok _

end Guarded
