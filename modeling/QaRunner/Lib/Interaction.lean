import Mathlib.Data.List.Basic

/-! Programs that call their environment and go on with its answers. A statement about a program
is made over all its runs: every call may be answered by any answer of its type. -/
namespace Interaction

variable {Call : Type} {Answer : Call → Type} {ε α β : Type}

/-- A program has ended, or makes a call and goes on with the answer. -/
inductive Prog (Call : Type) (Answer : Call → Type) (ε α : Type) where
  | done (result : Except ε α)
  | ask (call : Call) (next : Answer call → Prog Call Answer ε α)

/-- The calls of a run in order, each with its answer. -/
abbrev Trace (Answer : Call → Type) : Type := List (Sigma Answer)

namespace Prog

def bind : Prog Call Answer ε α → (α → Prog Call Answer ε β) → Prog Call Answer ε β
  | .done (.ok a), f => f a
  | .done (.error e), _ => .done (.error e)
  | .ask call next, f => .ask call fun answer => (next answer).bind f

instance : Monad (Prog Call Answer ε) where
  pure a := .done (.ok a)
  bind := bind

/-- A computation that makes no call. -/
def lift (x : Except ε α) : Prog Call Answer ε α := .done x

def call (c : Call) : Prog Call Answer ε (Answer c) := .ask c fun answer => .done (.ok answer)

/-- Go through a list from left to right, stopping at the first failure. -/
def each : List β → (β → Prog Call Answer ε Unit) → Prog Call Answer ε Unit
  | [], _ => .done (.ok ())
  | b :: bs, f => do
    f b
    each bs f

/-- The program made these calls, got these answers and ended so. -/
inductive Runs : Prog Call Answer ε α → Trace Answer → Except ε α → Prop
  | done (result) : Runs (.done result) [] result
  | ask {call next trace result} (answer : Answer call) (hnext : Runs (next answer) trace result) :
      Runs (.ask call next) (⟨call, answer⟩ :: trace) result

/-- What the program ends with when each call has one answer, or fails. -/
def eval (respond : (call : Call) → Except ε (Answer call)) : Prog Call Answer ε α → Except ε α
  | .done result => result
  | .ask call next => respond call >>= fun answer => (next answer).eval respond

/-- Whatever the answers, the program returns with what holds or fails as it may. -/
def Meets (fails : Trace Answer → ε → Prop) (p : Prog Call Answer ε α)
    (holds : Trace Answer → α → Prop) : Prop :=
  ∀ trace result, Runs p trace result →
    (∀ a, result = .ok a → holds trace a) ∧ ∀ e, result = .error e → fails trace e

section
variable {p : Prog Call Answer ε α} {f : α → Prog Call Answer ε β} {trace : Trace Answer}
  {respond : (call : Call) → Except ε (Answer call)}

/-- A run of two programs in sequence is a run of the first and, unless it fails, one of the
second. -/
theorem Runs.bind_cases {result : Except ε β} (h : Runs (p >>= f) trace result) :
    (∃ before a after, trace = before ++ after ∧ Runs p before (.ok a) ∧
      Runs (f a) after result) ∨ ∃ e, Runs p trace (.error e) ∧ result = .error e := by
  induction p generalizing trace with
  | done ended =>
    cases ended with
    | ok a => exact Or.inl ⟨[], a, trace, rfl, .done _, h⟩
    | error e =>
      cases h
      exact Or.inr ⟨e, .done _, rfl⟩
  | ask call next ih =>
    cases h with
    | ask answer hnext =>
      rcases ih answer hnext with ⟨before, a, after, rfl, hbefore, hafter⟩ | ⟨e, hfailed, rfl⟩
      · exact Or.inl ⟨⟨call, answer⟩ :: before, a, after, rfl, .ask answer hbefore, hafter⟩
      · exact Or.inr ⟨e, .ask answer hfailed, rfl⟩

theorem eval_bind : (p >>= f).eval respond = p.eval respond >>= fun a => (f a).eval respond := by
  induction p with
  | done result =>
    cases result with
    | ok a => rfl
    | error e => rfl
  | ask call next ih =>
    show (respond call >>= fun answer => (next answer >>= f).eval respond) =
      (respond call >>= fun answer => (next answer).eval respond) >>= fun a => (f a).eval respond
    cases respond call with
    | ok answer => exact ih answer
    | error e => rfl

@[simp] theorem eval_lift (x : Except ε α) :
    (lift x : Prog Call Answer ε α).eval respond = x := rfl

@[simp] theorem eval_pure (a : α) : (pure a : Prog Call Answer ε α).eval respond = .ok a := rfl

@[simp] theorem eval_call (c : Call) :
    (call c : Prog Call Answer ε _).eval respond = respond c := by
  show (respond c >>= fun answer => .ok answer) = respond c
  cases respond c with
  | ok answer => rfl
  | error e => rfl

/-- The answers of a total environment make a run. -/
theorem exists_runs (answers : (call : Call) → Answer call) (p : Prog Call Answer ε α) :
    ∃ trace, Runs p trace (p.eval fun call => .ok (answers call)) := by
  induction p with
  | done result => exact ⟨[], .done result⟩
  | ask call next ih =>
    obtain ⟨trace, hnext⟩ := ih (answers call)
    exact ⟨⟨call, answers call⟩ :: trace, .ask (answers call) hnext⟩

end

namespace Meets

variable {fails fails' : Trace Answer → ε → Prop} {p : Prog Call Answer ε α}
  {f : α → Prog Call Answer ε β} {holds holds' : Trace Answer → α → Prop}
  {after : Trace Answer → β → Prop}

theorem pure {a : α} (h : holds [] a) : Meets fails (pure a) holds := by
  intro trace result hrun
  cases hrun
  constructor
  · rintro _ ⟨⟩
    exact h
  · rintro _ ⟨⟩

theorem lift {x : Except ε α} (hok : ∀ a, x = .ok a → holds [] a)
    (herror : ∀ e, x = .error e → fails [] e) : Meets fails (.lift x) holds := by
  intro trace result hrun
  cases hrun
  exact ⟨hok, herror⟩

theorem call {c : Call} : Meets fails (.call c) fun trace answer => trace = [⟨c, answer⟩] := by
  intro trace result hrun
  cases hrun with
  | ask answer hnext =>
    cases hnext
    constructor
    · rintro _ ⟨⟩
      rfl
    · rintro _ ⟨⟩

theorem mono (h : Meets fails p holds) (hholds : ∀ trace a, holds trace a → holds' trace a)
    (hfails : ∀ trace e, fails trace e → fails' trace e) : Meets fails' p holds' := by
  intro trace result hrun
  obtain ⟨hok, herror⟩ := h trace result hrun
  exact ⟨fun a ha => hholds trace a (hok a ha), fun e he => hfails trace e (herror e he)⟩

/-- The second program goes on from the calls of the first. -/
theorem bind (hp : Meets fails p holds)
    (hf : ∀ trace a, holds trace a →
      Meets (fun rest e => fails (trace ++ rest) e) (f a) fun rest b => after (trace ++ rest) b) :
    Meets fails (p >>= f) after := by
  intro trace result hrun
  rcases hrun.bind_cases with ⟨before, a, rest, rfl, hbefore, hrest⟩ | ⟨e, hfailed, rfl⟩
  · have hholds := (hp before _ hbefore).1 a rfl
    exact hf before a hholds rest result hrest
  · constructor
    · rintro _ ⟨⟩
    · rintro _ ⟨⟩
      exact (hp trace _ hfailed).2 e rfl

/-- Each element adds its own calls, and leaves a fact about itself. -/
theorem each {bs : List β} {body : β → Prog Call Answer ε Unit} {calls : β → Trace Answer}
    {fact : β → Prop} (hbefore : ∀ b rest e, fails rest e → fails (calls b ++ rest) e)
    (h : ∀ b ∈ bs, Meets fails (body b) fun trace _ => trace = calls b ∧ fact b) :
    Meets fails (Prog.each bs body) fun trace _ =>
      trace = bs.flatMap calls ∧ ∀ b ∈ bs, fact b := by
  induction bs with
  | nil => exact pure ⟨rfl, fun b hb => absurd hb List.not_mem_nil⟩
  | cons b bs ih =>
    obtain ⟨hb, hbs⟩ := List.forall_mem_cons.mp h
    apply bind hb
    rintro _ _ ⟨rfl, hfact⟩
    apply (ih hbs).mono
    · rintro _ _ ⟨rfl, hfacts⟩
      exact ⟨rfl, List.forall_mem_cons.mpr ⟨hfact, hfacts⟩⟩
    · exact hbefore b

end Meets
end Prog
end Interaction
