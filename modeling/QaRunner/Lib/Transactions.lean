import Mathlib.Data.List.Flatten
import Mathlib.Data.List.Nodup
import Mathlib.Data.List.Pairwise
import Mathlib.Logic.Function.Basic
import Mathlib.Logic.Relation

/-! Transactions that add rows to shared tables. Each sees what is committed and what it added
itself, rows that clash are never both kept, and a refused write dooms its transaction. -/
namespace Transactions

/-- What a call does, one statement at a time. -/
inductive Script (ρ ε α : Type) where
  | done (result : Except ε α)
  | query (next : List ρ → Script ρ ε α)
  | insert (row : ρ) (duplicate : ε) (next : Script ρ ε α)

variable {τ γ ρ ε α β : Type}

namespace Script

def bind : Script ρ ε α → (α → Script ρ ε β) → Script ρ ε β
  | .done (.ok a), f => f a
  | .done (.error e), _ => .done (.error e)
  | .query next, f => .query fun rows => (next rows).bind f
  | .insert row duplicate next, f => .insert row duplicate (next.bind f)

instance : Monad (Script ρ ε) where
  pure a := .done (.ok a)
  bind := bind

theorem bind_assoc {δ : Type} (p : Script ρ ε α) (f : α → Script ρ ε β) (g : β → Script ρ ε δ) :
    (p >>= f) >>= g = p >>= fun a => f a >>= g := by
  induction p with
  | done result => cases result <;> rfl
  | query next ih => exact congrArg Script.query (funext fun rows => ih rows)
  | insert row duplicate next ih => exact congrArg (Script.insert row duplicate) ih

/-- Look at the rows once. -/
def look (f : List ρ → Except ε α) : Script ρ ε α := .query fun rows => .done (f rows)

def add (row : ρ) (duplicate : ε) : Script ρ ε Unit := .insert row duplicate (.done (.ok ()))

/-- No statement at all. -/
def lift (x : Except ε α) : Script ρ ε α := .done x

/-- What a script adds and answers on rows that nobody else changes. -/
def run (clash : ρ → ρ → Prop) [DecidableRel clash] :
    List ρ → List ρ → Script ρ ε α → List ρ × Except ε α
  | _, added, .done result => (added, result)
  | rows, added, .query next => run clash rows added (next rows)
  | rows, added, .insert row duplicate next =>
    if ∃ r ∈ rows, clash row r then (added, .error duplicate)
    else run clash (rows ++ [row]) (added ++ [row]) next

section
variable {clash : ρ → ρ → Prop} [DecidableRel clash] {rows added : List ρ} {f : β → Script ρ ε α}
  {b : β}

theorem run_lift_bind {x : Except ε β} (h : x = .ok b) :
    (lift x >>= f).run clash rows added = (f b).run clash rows added := by
  subst h
  rfl

theorem run_look_bind {g : List ρ → Except ε β} (h : g rows = .ok b) :
    (look g >>= f).run clash rows added = (f b).run clash rows added :=
  run_lift_bind (f := f) h

theorem run_add_bind {row : ρ} {duplicate : ε} {g : Unit → Script ρ ε α}
    (h : ∀ r ∈ rows, ¬ clash row r) : (add row duplicate >>= g).run clash rows added =
      (g ()).run clash (rows ++ [row]) (added ++ [row]) := by
  refine if_neg ?_
  rintro ⟨r, hr, hclash⟩
  exact h r hr hclash

end
end Script

/-- On rows of a kind the script only looks at them, and ends in one way. -/
inductive Reads (P : List ρ → Prop) (result : Except ε α) : Script ρ ε α → Prop
  | done : Reads P result (.done result)
  | query {next} (h : ∀ rows, P rows → Reads P result (next rows)) : Reads P result (.query next)

namespace Reads
variable {P : List ρ → Prop} {result : Except ε α} {f : β → Script ρ ε α} {b : β}

theorem lift_bind {x : Except ε β} (h : x = .ok b) (hf : Reads P result (f b)) :
    Reads P result (Script.lift x >>= f) := by
  subst h
  exact hf

theorem look_bind {g : List ρ → Except ε β}
    (h : ∀ rows, P rows → ∃ b, g rows = .ok b ∧ Reads P result (f b)) :
    Reads P result (Script.look g >>= f) :=
  .query fun rows hrows => by
    obtain ⟨b, hb, hf⟩ := h rows hrows
    exact lift_bind hb hf

theorem run_eq {clash : ρ → ρ → Prop} [DecidableRel clash] {p : Script ρ ε α} {rows : List ρ}
    (h : Reads P result p) (hrows : P rows) (added : List ρ) :
    p.run clash rows added = (added, result) := by
  induction h with
  | done => rfl
  | query _ ih => exact ih rows hrows

end Reads

/-- A finished call: what it added, and how it ended. -/
structure Answer (γ ρ ε α : Type) where
  call : γ
  added : List ρ
  result : Except ε α

inductive Phase (γ ρ ε α : Type) where
  | idle
  | running (call : γ) (added : List ρ) (rest : Script ρ ε α)
  | aborted
  | committed
  | rolledBack

/-- What a call in flight has added so far. -/
def Phase.added : Phase γ ρ ε α → List ρ
  | .running _ added _ => added
  | _ => []

structure Tx (γ ρ ε α : Type) where
  answers : List (Answer γ ρ ε α) := []
  phase : Phase γ ρ ε α := .idle

/-- What the transaction has added, in order. -/
def Tx.rows (x : Tx γ ρ ε α) : List ρ := x.answers.flatMap (·.added) ++ x.phase.added

/-- The transactions, and which of them committed in which order. -/
structure Store (τ γ ρ ε α : Type) where
  order : List τ := []
  txs : τ → Tx γ ρ ε α := fun _ => {}

namespace Store

variable (s : Store τ γ ρ ε α)

def committed : List ρ := s.order.flatMap fun t => (s.txs t).rows

/-- What a transaction sees. -/
def view (t : τ) : List ρ := s.committed ++ (s.txs t).rows

/-- Its rows are kept, or still may be. -/
def Live (t : τ) : Prop := (s.txs t).phase ≠ .rolledBack

def set [DecidableEq τ] (t : τ) (x : Tx γ ρ ε α) : Store τ γ ρ ε α :=
  { s with txs := Function.update s.txs t x }

/-- The phase of a transaction changes, and its finished calls stay. -/
def enter [DecidableEq τ] (t : τ) (phase : Phase γ ρ ε α) : Store τ γ ρ ε α :=
  s.set t { s.txs t with phase }

end Store

/-- The scripts of the calls, which refusals doom a transaction, and which rows exclude each
other. -/
structure Rules (γ ρ ε α : Type) where
  script : γ → Script ρ ε α
  dooms : γ → Bool
  clash : ρ → ρ → Prop
  symm : ∀ a b, clash a b → clash b a

/-- The phase after an answer. -/
def Rules.settled (R : Rules γ ρ ε α) (call : γ) : Except ε α → Phase γ ρ ε α
  | .ok _ => .idle
  | .error _ => if R.dooms call then .aborted else .idle

/-- One step of one transaction. An insert waits while a transaction that may still roll back holds
a row it clashes with. -/
inductive Step [DecidableEq τ] (R : Rules γ ρ ε α) : Store τ γ ρ ε α → Store τ γ ρ ε α → Prop
  | call {s} (t : τ) (call : γ) (h : (s.txs t).phase = .idle) :
    Step R s (s.enter t (.running call [] (R.script call)))
  | query {s} (t : τ) {call added next} (h : (s.txs t).phase = .running call added (.query next)) :
    Step R s (s.enter t (.running call added (next (s.view t))))
  | insert {s} (t : τ) {call added row duplicate next}
    (h : (s.txs t).phase = .running call added (.insert row duplicate next))
    (hfree : ∀ u, s.Live u → ∀ r ∈ (s.txs u).rows, ¬ R.clash row r) :
    Step R s (s.enter t (.running call (added ++ [row]) next))
  | refuse {s} (t : τ) {call added row duplicate next}
    (h : (s.txs t).phase = .running call added (.insert row duplicate next))
    (hclash : ∃ r ∈ s.view t, R.clash row r) :
    Step R s (s.enter t (.running call added (.done (.error duplicate))))
  | answer {s} (t : τ) {call added result}
    (h : (s.txs t).phase = .running call added (.done result)) :
    Step R s (s.set t ⟨(s.txs t).answers ++ [⟨call, added, result⟩], R.settled call result⟩)
  | commit {s} (t : τ) (h : (s.txs t).phase = .idle) :
    Step R s { (s.enter t .committed) with order := s.order ++ [t] }
  | rollback {s} (t : τ) (h : (s.txs t).phase ≠ .committed) : Step R s (s.enter t .rolledBack)

/-- Some steps lead here from the empty tables. -/
def Reachable [DecidableEq τ] (R : Rules γ ρ ε α) (s : Store τ γ ρ ε α) : Prop :=
  Relation.ReflTransGen (Step R) {} s

/-- Whatever a script sees of rows that only grow, each row it adds is justified by rows it saw, and
it ends as it should. -/
inductive Sound (J : List ρ → ρ → Prop) (Post : List ρ → List ρ → Except ε α → Prop) :
    List ρ → List ρ → Script ρ ε α → Prop
  | done {rows added result} (h : Post rows added result) : Sound J Post rows added (.done result)
  | query {rows added next} (h : ∀ rows', rows ⊆ rows' → Sound J Post rows' added (next rows')) :
    Sound J Post rows added (.query next)
  | insert {rows added row duplicate next} (hrow : J rows row)
    (hrefused : Post rows added (.error duplicate))
    (h : ∀ rows', rows ⊆ rows' → row ∈ rows' → Sound J Post rows' (added ++ [row]) next) :
    Sound J Post rows added (.insert row duplicate next)

namespace Sound

section
variable {J : List ρ → ρ → Prop} {Post : List ρ → List ρ → Except ε α → Prop} {rows added : List ρ}
  {f : β → Script ρ ε α}

/-- A sequence goes on from what its first part ensures. -/
theorem bind {Mid : List ρ → List ρ → Except ε β → Prop} {p : Script ρ ε β}
    (hp : Sound J Mid rows added p)
    (herror : ∀ rows added e, Mid rows added (.error e) → Post rows added (.error e))
    (hf : ∀ rows added b, Mid rows added (.ok b) → Sound J Post rows added (f b)) :
    Sound J Post rows added (p >>= f) := by
  induction hp with
  | @done rows added result h =>
    cases result with
    | ok b => exact hf rows added b h
    | error e => exact .done (herror rows added e h)
  | query _ ih => exact .query ih
  | insert hrow hrefused _ ih => exact .insert hrow (herror _ _ _ hrefused) ih

theorem lift_bind {x : Except ε β} (herror : ∀ e, x = .error e → Post rows added (.error e))
    (hok : ∀ b, x = .ok b → Sound J Post rows added (f b)) :
    Sound J Post rows added (Script.lift x >>= f) := by
  cases x with
  | ok b => exact hok b rfl
  | error e => exact .done (herror e rfl)

theorem look_bind {look : List ρ → Except ε β}
    (herror : ∀ rows' e, rows ⊆ rows' → look rows' = .error e → Post rows' added (.error e))
    (hok : ∀ rows' b, rows ⊆ rows' → look rows' = .ok b → Sound J Post rows' added (f b)) :
    Sound J Post rows added (Script.look look >>= f) :=
  .query fun rows' hrows => lift_bind (fun e => herror rows' e hrows) fun b => hok rows' b hrows

theorem add_bind {row : ρ} {duplicate : ε} {g : Unit → Script ρ ε α} (hrow : J rows row)
    (hrefused : Post rows added (.error duplicate))
    (h : ∀ rows', rows ⊆ rows' → row ∈ rows' → Sound J Post rows' (added ++ [row]) (g ())) :
    Sound J Post rows added (Script.add row duplicate >>= g) := .insert hrow hrefused h

end
end Sound

/-- What justifies a row and what an answer says stays true as the rows grow, and every script is
sound for it. -/
structure Lawful (R : Rules γ ρ ε α) (J : List ρ → ρ → Prop)
    (Post : γ → List ρ → List ρ → Except ε α → Prop) : Prop where
  grows : ∀ {rows rows' row}, rows ⊆ rows' → J rows row → J rows' row
  lasts : ∀ {call rows rows' added result}, rows ⊆ rows' → Post call rows added result →
    Post call rows' added result
  sound : ∀ call rows, Sound J (Post call) rows [] (R.script call)

/-- No write of the transaction was refused. -/
def Rules.Clean (R : Rules γ ρ ε α) (x : Tx γ ρ ε α) : Prop :=
  ∀ a ∈ x.answers, R.dooms a.call = true → ∃ v, a.result = .ok v

/-- The rows of the transactions are apart and justified, their answers are true, and a transaction
goes on only while it is clean. -/
structure Inv (R : Rules γ ρ ε α) (J : List ρ → ρ → Prop)
    (Post : γ → List ρ → List ρ → Except ε α → Prop) (s : Store τ γ ρ ε α) : Prop where
  nodup : s.order.Nodup
  committed : ∀ t, t ∈ s.order ↔ (s.txs t).phase = .committed
  own : ∀ t, s.Live t → (s.txs t).rows.Pairwise fun a b => ¬ R.clash a b
  apart : ∀ t u, t ≠ u → s.Live t → s.Live u → ∀ a ∈ (s.txs t).rows, ∀ b ∈ (s.txs u).rows,
    ¬ R.clash a b
  justified : ∀ t, s.Live t → ∀ row ∈ (s.txs t).rows, J (s.view t) row
  answers : ∀ t, s.Live t → ∀ a ∈ (s.txs t).answers, Post a.call (s.view t) a.added a.result
  running : ∀ t call added rest, (s.txs t).phase = .running call added rest →
    Sound J (Post call) (s.view t) added rest
  clean : ∀ t, (s.txs t).phase ≠ .aborted → s.Live t → R.Clean (s.txs t)

section
variable {R : Rules γ ρ ε α} {J : List ρ → ρ → Prop}
  {Post : γ → List ρ → List ρ → Except ε α → Prop} {s s' : Store τ γ ρ ε α} {t u : τ}
  {x : Tx γ ρ ε α} {call : γ} {added rows rows' : List ρ} {rest : Script ρ ε α}

theorem Rules.settled_cases (R : Rules γ ρ ε α) (call : γ) (result : Except ε α) :
    R.settled call result = .idle ∨ R.settled call result = .aborted := by
  cases result with
  | ok a => exact Or.inl rfl
  | error e =>
    by_cases hdooms : R.dooms call = true
    · exact Or.inr (if_pos hdooms)
    · exact Or.inl (if_neg hdooms)

theorem Lawful.sound_grows (hlaw : Lawful R J Post) (h : Sound J (Post call) rows added rest)
    (hrows : rows ⊆ rows') : Sound J (Post call) rows' added rest := by
  cases h with
  | done h => exact .done (hlaw.lasts hrows h)
  | query h => exact .query fun _ hmore => h _ (List.Subset.trans hrows hmore)
  | insert hrow hrefused h =>
    exact .insert (hlaw.grows hrows hrow) (hlaw.lasts hrows hrefused)
      fun _ hmore hadded => h _ (List.Subset.trans hrows hmore) hadded

theorem Tx.rows_running (h : x.phase = .running call added rest) :
    x.rows = x.answers.flatMap (·.added) ++ added := by
  rw [Tx.rows, h]
  rfl

theorem Tx.rows_committed (h : x.phase = .committed) : x.rows = x.answers.flatMap (·.added) := by
  rw [Tx.rows, h]
  exact List.append_nil _

theorem Store.rows_of_committed (h : t ∈ s.order) : (s.txs t).rows ⊆ s.committed :=
  fun _ hrow => List.mem_flatMap.mpr ⟨t, h, hrow⟩

/-- A committed transaction sees what is committed. -/
theorem Store.view_of_committed (h : t ∈ s.order) : s.view t ⊆ s.committed :=
  List.append_subset.mpr ⟨List.Subset.refl _, rows_of_committed h⟩

theorem Inv.not_mem_order (hs : Inv R J Post s) (h : (s.txs t).phase ≠ .committed) :
    t ∉ s.order := mt (hs.committed t).mp h

theorem Inv.live_of_mem (hs : Inv R J Post s) (h : t ∈ s.order) : s.Live t := by
  rw [Store.Live, (hs.committed t).mp h]
  exact nofun

/-- No two committed rows clash. -/
theorem Inv.committed_pairwise (hs : Inv R J Post s) :
    s.committed.Pairwise fun a b => ¬ R.clash a b := by
  refine List.pairwise_flatMap.mpr ⟨fun u hu => hs.own u (hs.live_of_mem hu), ?_⟩
  refine List.Pairwise.imp_of_mem (fun {u v} hu hv huv => ?_) hs.nodup
  exact hs.apart u v huv (hs.live_of_mem hu) (hs.live_of_mem hv)

/-- A committed row is justified by committed rows. -/
theorem Inv.justified_committed (hs : Inv R J Post s) (hlaw : Lawful R J Post) {row : ρ}
    (hrow : row ∈ s.committed) : J s.committed row := by
  obtain ⟨u, hu, hmem⟩ := List.mem_flatMap.mp hrow
  exact hlaw.grows (Store.view_of_committed hu) (hs.justified u (hs.live_of_mem hu) row hmem)

/-- No two of the rows clash, and each is justified by them. -/
structure Closed (R : Rules γ ρ ε α) (J : List ρ → ρ → Prop) (rows : List ρ) : Prop where
  apart : rows.Pairwise fun a b => ¬ R.clash a b
  justified : ∀ row ∈ rows, J rows row

theorem Closed.eq_of_clash (h : Closed R J rows) {a b : ρ} (ha : a ∈ rows) (hb : b ∈ rows)
    (hclash : R.clash a b) : a = b := by
  have : Std.Symm fun a b => ¬ R.clash a b := ⟨fun a b hab hba => hab (R.symm b a hba)⟩
  by_contra hne
  exact h.apart.forall ha hb hne hclash

theorem Inv.closed_committed (hs : Inv R J Post s) (hlaw : Lawful R J Post) :
    Closed R J s.committed :=
  ⟨hs.committed_pairwise, fun _ hrow => hs.justified_committed hlaw hrow⟩

/-- So is what a transaction sees that is still open. -/
theorem Inv.closed_view (hs : Inv R J Post s) (hlaw : Lawful R J Post) (ht : t ∉ s.order)
    (hlive : s.Live t) : Closed R J (s.view t) := by
  refine ⟨List.pairwise_append.mpr ⟨hs.committed_pairwise, hs.own t hlive, ?_⟩, ?_⟩
  · intro a ha b hb
    obtain ⟨u, hu, hmem⟩ := List.mem_flatMap.mp ha
    exact hs.apart u t (ne_of_mem_of_not_mem hu ht) (hs.live_of_mem hu) hlive a hmem b hb
  · intro row hrow
    rcases List.mem_append.mp hrow with hold | hown
    · exact hlaw.grows (List.subset_append_left _ _) (hs.justified_committed hlaw hold)
    · exact hs.justified t hlive row hown

/-- A transaction in which a write was refused does not commit. -/
theorem Inv.clean_committed (hs : Inv R J Post s) (ht : t ∈ s.order) : R.Clean (s.txs t) :=
  hs.clean t (by rw [(hs.committed t).mp ht]; exact nofun) (hs.live_of_mem ht)

/-- A committed row was added by a call of a committed transaction. -/
theorem Inv.exists_answer (hs : Inv R J Post s) {row : ρ} (hrow : row ∈ s.committed) :
    ∃ t ∈ s.order, ∃ a ∈ (s.txs t).answers, row ∈ a.added := by
  obtain ⟨t, ht, hmem⟩ := List.mem_flatMap.mp hrow
  refine ⟨t, ht, ?_⟩
  rw [Tx.rows_committed ((hs.committed t).mp ht)] at hmem
  exact List.mem_flatMap.mp hmem

/-- Two calls of committed transactions that added clashing rows are one call. -/
theorem Inv.answer_eq (hs : Inv R J Post s) (ht : t ∈ s.order) (hu : u ∈ s.order) {i j : ℕ}
    {a b : Answer γ ρ ε α} (ha : (s.txs t).answers[i]? = some a)
    (hb : (s.txs u).answers[j]? = some b) {p q : ρ} (hp : p ∈ a.added) (hq : q ∈ b.added)
    (hclash : R.clash p q) : t = u ∧ i = j := by
  have hrows := fun v hv => Tx.rows_committed ((hs.committed v).mp hv)
  by_cases htu : t = u
  · subst htu
    have hown := hs.own t (hs.live_of_mem ht)
    rw [hrows t ht, List.pairwise_flatMap, List.pairwise_iff_getElem] at hown
    obtain ⟨hi, rfl⟩ := List.getElem?_eq_some_iff.mp ha
    obtain ⟨hj, rfl⟩ := List.getElem?_eq_some_iff.mp hb
    refine ⟨rfl, ?_⟩
    rcases Nat.lt_trichotomy i j with hlt | heq | hgt
    · exact absurd hclash (hown.2 i j hi hj hlt p hp q hq)
    · exact heq
    · exact absurd (R.symm p q hclash) (hown.2 j i hj hi hgt q hq p hp)
  · have hmem : ∀ v ∈ s.order, ∀ c ∈ (s.txs v).answers, c.added ⊆ (s.txs v).rows := by
      intro v hv c hc
      rw [hrows v hv]
      exact fun r hr => List.mem_flatMap.mpr ⟨c, hc, hr⟩
    have hapart := hs.apart t u htu (hs.live_of_mem ht) (hs.live_of_mem hu)
      p (hmem t ht a (List.mem_of_getElem? ha) hp) q (hmem u hu b (List.mem_of_getElem? hb) hq)
    exact absurd hclash hapart

/-- What a committed transaction was answered is true of what is committed. -/
theorem Inv.answer_committed (hs : Inv R J Post s) (hlaw : Lawful R J Post) (ht : t ∈ s.order)
    {a : Answer γ ρ ε α} (ha : a ∈ (s.txs t).answers) :
    Post a.call s.committed a.added a.result :=
  hlaw.lasts (Store.view_of_committed ht) (hs.answers t (hs.live_of_mem ht) a ha)

end

section
variable [DecidableEq τ] {R : Rules γ ρ ε α} {J : List ρ → ρ → Prop}
  {Post : γ → List ρ → List ρ → Except ε α → Prop} {s s' : Store τ γ ρ ε α} {t u : τ}
  {x : Tx γ ρ ε α} {call : γ} {added rows rows' : List ρ} {rest : Script ρ ε α}

namespace Store

@[simp] theorem set_order : (s.set t x).order = s.order := rfl

@[simp] theorem set_self : (s.set t x).txs t = x := Function.update_self ..

theorem set_of_ne (h : u ≠ t) : (s.set t x).txs u = s.txs u := Function.update_of_ne h ..

theorem live_set_of_ne (h : u ≠ t) : (s.set t x).Live u ↔ s.Live u := by
  rw [Live, set_of_ne h]
  rfl

theorem committed_set (h : t ∉ s.order) : (s.set t x).committed = s.committed := by
  refine congrArg List.flatten (List.map_congr_left fun u hu => ?_)
  rw [set_of_ne (ne_of_mem_of_not_mem hu h)]

theorem view_set_self (h : t ∉ s.order) : (s.set t x).view t = s.committed ++ x.rows := by
  rw [view, committed_set h, set_self]

theorem view_set_of_ne (h : t ∉ s.order) (hu : u ≠ t) : (s.set t x).view u = s.view u := by
  rw [view, committed_set h, set_of_ne hu, view]

variable {phase : Phase γ ρ ε α}

@[simp] theorem enter_answers : ((s.enter t phase).txs t).answers = (s.txs t).answers := by
  rw [enter, set_self]

@[simp] theorem enter_phase : ((s.enter t phase).txs t).phase = phase := by
  rw [enter, set_self]

theorem enter_set : (s.enter t phase).set t x = s.set t x := by
  simp only [enter, set, Function.update_idem]

theorem committed_enter (h : t ∉ s.order) : (s.enter t phase).committed = s.committed :=
  committed_set h

theorem view_enter_running (h : t ∉ s.order) (call : γ) (added : List ρ) (rest : Script ρ ε α) :
    (s.enter t (.running call added rest)).view t =
      s.committed ++ ((s.txs t).answers.flatMap (·.added) ++ added) := by
  rw [enter, view_set_self h]
  rfl

theorem alone_enter (h : t ∉ s.order)
    (halone : ∀ u ≠ t, s.Live u → (s.txs u).rows ⊆ s.committed) :
    ∀ u ≠ t, (s.enter t phase).Live u →
      ((s.enter t phase).txs u).rows ⊆ (s.enter t phase).committed := by
  intro u hut hu
  rw [committed_enter h, enter, set_of_ne hut]
  exact halone u hut ((live_set_of_ne hut).mp hu)

end Store

open Store

namespace Inv

/-- One transaction that has not committed goes on, and stays apart, justified and true. -/
theorem set (hs : Inv R J Post s) (ht : (s.txs t).phase ≠ .committed)
    (hx : x.phase ≠ .committed)
    (hown : x.phase ≠ .rolledBack → x.rows.Pairwise fun a b => ¬ R.clash a b)
    (hapart : x.phase ≠ .rolledBack → ∀ u ≠ t, s.Live u → ∀ a ∈ x.rows, ∀ b ∈ (s.txs u).rows,
      ¬ R.clash a b)
    (hjustified : x.phase ≠ .rolledBack → ∀ row ∈ x.rows, J (s.committed ++ x.rows) row)
    (hanswers : x.phase ≠ .rolledBack → ∀ a ∈ x.answers,
      Post a.call (s.committed ++ x.rows) a.added a.result)
    (hrunning : ∀ call added rest, x.phase = .running call added rest →
      Sound J (Post call) (s.committed ++ x.rows) added rest)
    (hclean : x.phase ≠ .aborted → x.phase ≠ .rolledBack → R.Clean x) :
    Inv R J Post (s.set t x) := by
  have hmem := hs.not_mem_order ht
  have hlive : (s.set t x).Live t ↔ x.phase ≠ .rolledBack := by
    rw [Live, set_self]
  refine ⟨hs.nodup, fun u => ?_, fun u hu => ?_, fun u v huv hu hv => ?_, fun u hu => ?_,
    fun u hu => ?_, fun u call added rest => ?_, fun u hphase hu => ?_⟩
  · by_cases hut : u = t
    · subst hut
      rw [set_self, set_order]
      exact ⟨fun h => absurd h hmem, fun h => absurd h hx⟩
    · rw [set_of_ne hut]
      exact hs.committed u
  · by_cases hut : u = t
    · subst hut
      rw [set_self]
      exact hown (hlive.mp hu)
    · rw [set_of_ne hut]
      exact hs.own u ((live_set_of_ne hut).mp hu)
  · by_cases hut : u = t
    · subst hut
      rw [set_self, set_of_ne huv.symm]
      exact hapart (hlive.mp hu) v huv.symm ((live_set_of_ne huv.symm).mp hv)
    · by_cases hvt : v = t
      · subst hvt
        rw [set_self, set_of_ne hut]
        intro a ha b hb hclash
        exact hapart (hlive.mp hv) u hut ((live_set_of_ne hut).mp hu) b hb a ha
          (R.symm a b hclash)
      · rw [set_of_ne hut, set_of_ne hvt]
        exact hs.apart u v huv ((live_set_of_ne hut).mp hu) ((live_set_of_ne hvt).mp hv)
  · by_cases hut : u = t
    · subst hut
      rw [set_self, view_set_self hmem]
      exact hjustified (hlive.mp hu)
    · rw [set_of_ne hut, view_set_of_ne hmem hut]
      exact hs.justified u ((live_set_of_ne hut).mp hu)
  · by_cases hut : u = t
    · subst hut
      rw [set_self, view_set_self hmem]
      exact hanswers (hlive.mp hu)
    · rw [set_of_ne hut, view_set_of_ne hmem hut]
      exact hs.answers u ((live_set_of_ne hut).mp hu)
  · by_cases hut : u = t
    · subst hut
      rw [set_self, view_set_self hmem]
      exact hrunning call added rest
    · rw [set_of_ne hut, view_set_of_ne hmem hut]
      exact hs.running u call added rest
  · by_cases hut : u = t
    · subst hut
      rw [set_self] at hphase ⊢
      exact hclean hphase (hlive.mp hu)
    · rw [set_of_ne hut] at hphase ⊢
      exact hs.clean u hphase ((live_set_of_ne hut).mp hu)

/-- The same with rows that stay as they are. -/
theorem set_same (hs : Inv R J Post s) (ht : (s.txs t).phase ≠ .committed) (hlive : s.Live t)
    (hx : x.phase ≠ .committed) (hrows : x.rows = (s.txs t).rows)
    (hanswers : ∀ a ∈ x.answers, Post a.call (s.view t) a.added a.result)
    (hrunning : ∀ call added rest, x.phase = .running call added rest →
      Sound J (Post call) (s.view t) added rest)
    (hclean : x.phase ≠ .aborted → R.Clean x) : Inv R J Post (s.set t x) := by
  apply hs.set ht hx
  · rw [hrows]
    exact fun _ => hs.own t hlive
  · rw [hrows]
    exact fun _ u hut hu => hs.apart t u hut.symm hlive hu
  · rw [hrows]
    exact fun _ => hs.justified t hlive
  · rw [hrows]
    exact fun _ => hanswers
  · rw [hrows]
    exact hrunning
  · exact fun hphase _ => hclean hphase

/-- A running call takes a statement that leaves the rows as they are. -/
theorem enter_running (hs : Inv R J Post s) {rest' : Script ρ ε α}
    (h : (s.txs t).phase = .running call added rest)
    (hrest : Sound J (Post call) (s.view t) added rest') :
    Inv R J Post (s.enter t (.running call added rest')) := by
  have hlive : s.Live t := by
    rw [Live, h]
    exact nofun
  refine hs.set_same (by rw [h]; exact nofun) hlive nofun ?_ (hs.answers t hlive) ?_ ?_
  · rw [Tx.rows_running h]
    rfl
  · rintro _ _ _ ⟨⟩
    exact hrest
  · exact fun _ => hs.clean t (by rw [h]; exact nofun) hlive

theorem enter_inserted (hs : Inv R J Post s) (hlaw : Lawful R J Post) {row : ρ} {duplicate : ε}
    {next : Script ρ ε α} (h : (s.txs t).phase = .running call added (.insert row duplicate next))
    (hfree : ∀ u, s.Live u → ∀ r ∈ (s.txs u).rows, ¬ R.clash row r) :
    Inv R J Post (s.enter t (.running call (added ++ [row]) next)) := by
  have hlive : s.Live t := by
    rw [Live, h]
    exact nofun
  have hrows : (Tx.mk (s.txs t).answers (.running call (added ++ [row]) next)).rows =
      (s.txs t).rows ++ [row] := by
    rw [Tx.rows_running h, Tx.rows_running rfl, List.append_assoc]
  have hview : s.view t ⊆ s.committed ++ ((s.txs t).rows ++ [row]) := by
    rw [← List.append_assoc]
    exact List.subset_append_left _ _
  have hsound := hs.running t _ _ _ h
  cases hsound with
  | insert hrow _ hnext =>
    have hclean : R.Clean (s.txs t) := hs.clean t (by rw [h]; exact nofun) hlive
    refine hs.set (by rw [h]; exact nofun) nofun ?_ ?_ ?_ ?_ ?_ (fun _ _ => hclean) <;> rw [hrows]
    · intro _
      rw [List.pairwise_append]
      refine ⟨hs.own t hlive, List.pairwise_singleton _ _, fun a ha b hb hclash => ?_⟩
      rw [List.mem_singleton] at hb
      subst hb
      exact hfree t hlive a ha (R.symm a b hclash)
    · intro _ u hut hu a ha b hb
      rcases List.mem_append.mp ha with hold | hnew
      · exact hs.apart t u hut.symm hlive hu a hold b hb
      · rw [List.mem_singleton] at hnew
        subst hnew
        exact hfree u hu b hb
    · intro _ r hr
      rcases List.mem_append.mp hr with hold | hnew
      · exact hlaw.grows hview (hs.justified t hlive r hold)
      · rw [List.mem_singleton] at hnew
        subst hnew
        exact hlaw.grows hview hrow
    · intro _ a ha
      exact hlaw.lasts hview (hs.answers t hlive a ha)
    · rintro _ _ _ ⟨⟩
      exact hnext _ hview (by simp)

theorem answered (hs : Inv R J Post s) {result : Except ε α}
    (h : (s.txs t).phase = .running call added (.done result)) :
    Inv R J Post
      (s.set t ⟨(s.txs t).answers ++ [⟨call, added, result⟩], R.settled call result⟩) := by
  have hlive : s.Live t := by
    rw [Live, h]
    exact nofun
  have hsettled := R.settled_cases call result
  refine hs.set_same (by rw [h]; exact nofun) hlive ?_ ?_ ?_ ?_ ?_
  · rcases hsettled with hidle | haborted
    · rw [hidle]
      exact nofun
    · rw [haborted]
      exact nofun
  · rw [Tx.rows_running h, Tx.rows]
    rcases hsettled with hidle | haborted
    · simp [hidle, Phase.added]
    · simp [haborted, Phase.added]
  · intro a ha
    rcases List.mem_append.mp ha with hold | hnew
    · exact hs.answers t hlive a hold
    · rw [List.mem_singleton] at hnew
      subst hnew
      have hsound := hs.running t _ _ _ h
      cases hsound with
      | done hpost => exact hpost
  · intro call' added' rest' hrunning
    rcases hsettled with hidle | haborted
    · rw [hidle] at hrunning
      cases hrunning
    · rw [haborted] at hrunning
      cases hrunning
  · intro hphase a ha hdooms
    rcases List.mem_append.mp ha with hold | hnew
    · exact hs.clean t (by rw [h]; exact nofun) hlive a hold hdooms
    · rw [List.mem_singleton] at hnew
      subst hnew
      cases result with
      | ok v => exact ⟨v, rfl⟩
      | error e => exact absurd (if_pos hdooms) hphase

theorem commit (hs : Inv R J Post s) (hlaw : Lawful R J Post) (h : (s.txs t).phase = .idle) :
    Inv R J Post { (s.enter t .committed) with order := s.order ++ [t] } := by
  have hmem : t ∉ s.order := hs.not_mem_order (by rw [h]; exact nofun)
  have hrows : ∀ u, (({ (s.enter t .committed) with order := s.order ++ [t] } :
      Store τ γ ρ ε α).txs u).rows = (s.txs u).rows := by
    intro u
    by_cases hut : u = t
    · subst hut
      simp only [enter, set_self, Tx.rows, h, Phase.added]
    · simp only [enter, set_of_ne hut]
  have hanswers : ∀ u, (({ (s.enter t .committed) with order := s.order ++ [t] } :
      Store τ γ ρ ε α).txs u).answers = (s.txs u).answers := by
    intro u
    by_cases hut : u = t
    · subst hut
      simp only [enter, set_self]
    · simp only [enter, set_of_ne hut]
  generalize hs' : ({ (s.enter t .committed) with order := s.order ++ [t] } :
    Store τ γ ρ ε α) = s'
  rw [hs'] at hrows hanswers
  have horder : s'.order = s.order ++ [t] := by
    rw [← hs']
  have hphase : ∀ u, u ≠ t → (s'.txs u).phase = (s.txs u).phase := by
    intro u hut
    rw [← hs']
    simp only [enter, set_of_ne hut]
  have hself : (s'.txs t).phase = .committed := by
    rw [← hs']
    simp only [enter, set_self]
  have hlive : ∀ u, s'.Live u → s.Live u := by
    intro u hu
    by_cases hut : u = t
    · subst hut
      rw [Live, h]
      exact nofun
    · rwa [Live, ← hphase u hut]
  have hview : ∀ u, s.view u ⊆ s'.view u := by
    intro u
    have hcommitted : s'.committed = s.committed ++ (s.txs t).rows := by
      rw [Store.committed, Store.committed, horder, List.flatMap_append]
      simp only [hrows, List.flatMap_singleton]
    rw [view, view, hrows, hcommitted, List.append_assoc]
    exact List.append_subset.mpr ⟨List.subset_append_left _ _,
      List.Subset.trans (List.subset_append_right _ _) (List.subset_append_right _ _)⟩
  refine ⟨?_, fun u => ?_, fun u hu => ?_, fun u v huv hu hv => ?_, fun u hu => ?_, fun u hu => ?_,
    fun u call added rest hrunning => ?_, fun u hphase' hu => ?_⟩
  · rw [horder]
    exact hs.nodup.append (List.nodup_singleton t) (by simpa using hmem)
  · rw [horder, List.mem_append, List.mem_singleton]
    by_cases hut : u = t
    · subst hut
      simp [hself]
    · rw [hphase u hut, hs.committed u]
      simp [hut]
  · rw [hrows]
    exact hs.own u (hlive u hu)
  · rw [hrows, hrows]
    exact hs.apart u v huv (hlive u hu) (hlive v hv)
  · rw [hrows]
    exact fun row hrow => hlaw.grows (hview u) (hs.justified u (hlive u hu) row hrow)
  · rw [hanswers]
    exact fun a ha => hlaw.lasts (hview u) (hs.answers u (hlive u hu) a ha)
  · have hut : u ≠ t := by
      rintro rfl
      rw [hself] at hrunning
      cases hrunning
    rw [hphase u hut] at hrunning
    exact hlaw.sound_grows (hs.running u call added rest hrunning) (hview u)
  · rw [Rules.Clean, hanswers]
    by_cases hut : u = t
    · subst hut
      exact hs.clean u (by rw [h]; exact nofun) (hlive u hu)
    · rw [hphase u hut] at hphase'
      exact hs.clean u hphase' (hlive u hu)

theorem step (hs : Inv R J Post s) (hlaw : Lawful R J Post) (h : Step R s s') :
    Inv R J Post s' := by
  cases h with
  | call t call hidle =>
    have hlive : s.Live t := by
      rw [Live, hidle]
      exact nofun
    refine hs.set_same (by rw [hidle]; exact nofun) hlive nofun ?_ (hs.answers t hlive) ?_ ?_
    · simp only [Tx.rows, hidle, Phase.added]
    · rintro _ _ _ ⟨⟩
      exact hlaw.sound call _
    · exact fun _ => hs.clean t (by rw [hidle]; exact nofun) hlive
  | query t hphase =>
    apply hs.enter_running hphase
    have hsound := hs.running t _ _ _ hphase
    cases hsound with
    | query hnext => exact hnext _ (List.Subset.refl _)
  | insert t hphase hfree => exact hs.enter_inserted hlaw hphase hfree
  | refuse t hphase _ =>
    apply hs.enter_running hphase
    have hsound := hs.running t _ _ _ hphase
    cases hsound with
    | insert _ hrefused _ => exact .done hrefused
  | answer t hphase => exact hs.answered hphase
  | commit t hidle => exact hs.commit hlaw hidle
  | rollback t hphase =>
    have hdead : ¬ (Phase.rolledBack : Phase γ ρ ε α) ≠ .rolledBack := by
      exact not_not.mpr rfl
    exact hs.set hphase nofun (fun hx => absurd hx hdead) (fun hx => absurd hx hdead)
      (fun hx => absurd hx hdead) (fun hx => absurd hx hdead) nofun
      (fun _ hx => absurd hx hdead)

omit [DecidableEq τ] in
theorem initial (R : Rules γ ρ ε α) : Inv R J Post ({} : Store τ γ ρ ε α) where
  nodup := List.nodup_nil
  committed _ := ⟨nofun, nofun⟩
  own _ _ := List.Pairwise.nil
  apart _ _ _ _ _ := nofun
  justified _ _ := nofun
  answers _ _ := nofun
  running _ _ _ _ := nofun
  clean _ _ _ := nofun

/-- Whatever the transactions do in whatever order, what they keep is apart and justified, and
their answers are true. -/
theorem of_reachable (hlaw : Lawful R J Post) (h : Reachable R s) : Inv R J Post s := by
  induction h with
  | refl => exact initial R
  | tail _ hstep ih => exact ih.step hlaw hstep

/-- A committed transaction is left as it is, and commits go to the end. -/
theorem step_frame (hs : Inv R J Post s) (h : Step R s s') : s.order <+: s'.order ∧
    ∀ u ∈ s.order, s'.txs u = s.txs u := by
  have hframe : ∀ t x, (s.txs t).phase ≠ .committed → ∀ u ∈ s.order, (s.set t x).txs u = s.txs u :=
    fun t x ht u hu => set_of_ne (ne_of_mem_of_not_mem hu (hs.not_mem_order ht))
  cases h with
  | commit t hphase =>
    exact ⟨List.prefix_append _ _, hframe t _ (by rw [hphase]; exact nofun)⟩
  | call t _ hphase => exact ⟨List.prefix_rfl, hframe t _ (by rw [hphase]; exact nofun)⟩
  | query t hphase => exact ⟨List.prefix_rfl, hframe t _ (by rw [hphase]; exact nofun)⟩
  | insert t hphase => exact ⟨List.prefix_rfl, hframe t _ (by rw [hphase]; exact nofun)⟩
  | refuse t hphase => exact ⟨List.prefix_rfl, hframe t _ (by rw [hphase]; exact nofun)⟩
  | answer t hphase => exact ⟨List.prefix_rfl, hframe t _ (by rw [hphase]; exact nofun)⟩
  | rollback t hphase => exact ⟨List.prefix_rfl, hframe t _ hphase⟩

/-- A call runs to its end where no other open transaction holds rows. -/
theorem run_alone [DecidableRel R.clash] (ht : t ∉ s.order)
    (halone : ∀ u ≠ t, s.Live u → (s.txs u).rows ⊆ s.committed)
    (h : (s.txs t).phase = .running call added rest)
    {result : Except ε α} (hrun : rest.run R.clash (s.view t) added = (rows, result)) :
    Relation.ReflTransGen (Step R) s
      (s.set t ⟨(s.txs t).answers ++ [⟨call, rows, result⟩], R.settled call result⟩) := by
  have hview : s.view t = s.committed ++ ((s.txs t).answers.flatMap (·.added) ++ added) := by
    rw [view, Tx.rows_running h]
  induction rest generalizing s added with
  | done answer =>
    cases hrun
    exact .single (.answer t h)
  | query next ih =>
    have hview' := view_enter_running ht call added (next (s.view t))
    refine .head (Step.query (R := R) t h) ?_
    rw [← enter_set, ← enter_answers]
    refine ih (s.view t) ht (alone_enter ht halone) enter_phase ?_ ?_
    · rw [hview', ← hview]
      exact hrun
    · rw [hview', enter_answers, committed_enter ht]
  | insert row duplicate next ih =>
    rw [Script.run] at hrun
    split at hrun
    · next hclash =>
      cases hrun
      refine .head (Step.refuse (R := R) t h hclash) ?_
      rw [← enter_set, ← enter_answers]
      exact .single (.answer t enter_phase)
    · next hfree =>
      have hview' := view_enter_running ht call (added ++ [row]) next
      have hrows : ∀ u, s.Live u → ∀ r ∈ (s.txs u).rows, ¬ R.clash row r := by
        intro u hu r hr hclash
        refine hfree ⟨r, ?_, hclash⟩
        by_cases hut : u = t
        · subst hut
          exact List.mem_append_right _ hr
        · exact List.mem_append_left _ (halone u hut hu hr)
      refine .head (Step.insert (R := R) t h hrows) ?_
      rw [← enter_set, ← enter_answers]
      refine ih ht (alone_enter ht halone) enter_phase ?_ ?_
      · rw [hview', ← List.append_assoc, ← List.append_assoc]
        rw [hview, ← List.append_assoc] at hrun
        exact hrun
      · rw [hview', enter_answers, committed_enter ht]

theorem call_alone [DecidableRel R.clash] (ht : t ∉ s.order)
    (halone : ∀ u ≠ t, s.Live u → (s.txs u).rows ⊆ s.committed) (h : (s.txs t).phase = .idle)
    {result : Except ε α}
    (hrun : (R.script call).run R.clash (s.view t) [] = (rows, result)) :
    Relation.ReflTransGen (Step R) s
      (s.set t ⟨(s.txs t).answers ++ [⟨call, rows, result⟩], R.settled call result⟩) := by
  have hview : (s.enter t (.running call [] (R.script call))).view t = s.view t := by
    rw [view_enter_running ht, view, Tx.rows, h]
    rfl
  refine .head (Step.call t call h) ?_
  rw [← enter_set, ← enter_answers]
  rw [← hview] at hrun
  exact run_alone (s := s.enter t (.running call [] (R.script call))) ht (alone_enter ht halone)
    enter_phase hrun

/-- One transaction runs a call and commits where the others have committed or not begun. -/
theorem commit_alone [DecidableRel R.clash] (hidle : ∀ u ∉ s.order, s.txs u = {}) (ht : t ∉ s.order)
    {v : α} (hrun : (R.script call).run R.clash s.committed [] = (rows, .ok v)) :
    ∃ s', Relation.ReflTransGen (Step R) s s' ∧ s'.order = s.order ++ [t] ∧
      (∀ u ∉ s'.order, s'.txs u = {}) ∧ (∀ u ∈ s.order, s'.txs u = s.txs u) ∧
      (s'.txs t).answers = [⟨call, rows, .ok v⟩] ∧ s'.committed = s.committed ++ rows := by
  have htx := hidle t ht
  have halone : ∀ u ≠ t, s.Live u → (s.txs u).rows ⊆ s.committed := by
    intro u _ _
    by_cases hu : u ∈ s.order
    · exact Store.rows_of_committed hu
    · rw [hidle u hu]
      exact List.nil_subset _
  have hview : s.view t = s.committed := by
    rw [view, htx]
    exact List.append_nil _
  rw [← hview] at hrun
  have hcall := call_alone ht halone (by rw [htx]) hrun
  have hphase : ((s.set t ⟨(s.txs t).answers ++ [⟨call, rows, .ok v⟩], .idle⟩).txs t).phase =
      .idle := by rw [set_self]
  have hothers : ∀ u ≠ t, ∀ x y, ((s.set t x).set t y).txs u = s.txs u :=
    fun u hu _ _ => (set_of_ne hu).trans (set_of_ne hu)
  refine ⟨_, hcall.tail (.commit t hphase), rfl, fun u hu => ?_, fun u hu => ?_, ?_, ?_⟩
  · rw [List.mem_append, List.mem_singleton, not_or] at hu
    exact (hothers u hu.2 _ _).trans (hidle u hu.1)
  · exact hothers u (ne_of_mem_of_not_mem hu ht) _ _
  · rw [enter_answers, set_self, htx]
    rfl
  · rw [Store.committed, set_order, List.flatMap_append, List.flatMap_singleton]
    congr 1
    · refine congrArg List.flatten (List.map_congr_left fun u hu => ?_)
      exact congrArg Tx.rows (hothers u (ne_of_mem_of_not_mem hu ht) _ _)
    · rw [Tx.rows_committed (enter_phase ..), enter_answers, set_self, htx]
      simp

/-- The answers a transaction was given stay. -/
theorem earlier_answers (h : Relation.ReflTransGen (Step R) s s') (t : τ) :
    (s.txs t).answers <+: (s'.txs t).answers := by
  have hset : ∀ (s : Store τ γ ρ ε α) u x, (s.txs u).answers <+: x.answers →
      (s.txs t).answers <+: ((s.set u x).txs t).answers := by
    intro s u x hx
    by_cases htu : t = u
    · subst htu
      rwa [set_self]
    · have hsame : (s.set u x).txs t = s.txs t := set_of_ne htu
      exact hsame ▸ List.prefix_rfl
  induction h with
  | refl => exact List.prefix_rfl
  | tail _ hstep ih =>
    refine ih.trans ?_
    cases hstep with
    | call u => exact hset _ u _ List.prefix_rfl
    | query u => exact hset _ u _ List.prefix_rfl
    | insert u => exact hset _ u _ List.prefix_rfl
    | refuse u => exact hset _ u _ List.prefix_rfl
    | answer u => exact hset _ u _ (List.prefix_append _ _)
    | commit u => exact hset _ u _ List.prefix_rfl
    | rollback u => exact hset _ u _ List.prefix_rfl

/-- Over a run, committed transactions stay as they are and committed rows only grow at the end. -/
theorem run_frame (hs : Inv R J Post s) (hlaw : Lawful R J Post)
    (h : Relation.ReflTransGen (Step R) s s') :
    (s.order <+: s'.order ∧ ∀ u ∈ s.order, s'.txs u = s.txs u) ∧ Inv R J Post s' := by
  induction h with
  | refl => exact ⟨⟨List.prefix_rfl, fun _ _ => rfl⟩, hs⟩
  | tail _ hstep ih =>
    obtain ⟨⟨horder, hsame⟩, hinv⟩ := ih
    obtain ⟨horder', hsame'⟩ := hinv.step_frame hstep
    refine ⟨⟨horder.trans horder', fun u hu => ?_⟩, hinv.step hlaw hstep⟩
    rw [hsame' u (horder.subset hu), hsame u hu]

/-- A transaction in which a write was refused never commits, whatever it and the others do. -/
theorem never_commits (hs : Inv R J Post s) (hlaw : Lawful R J Post) {a : Answer γ ρ ε α} {e : ε}
    (ha : a ∈ (s.txs t).answers) (hdooms : R.dooms a.call = true) (hrefused : a.result = .error e)
    (h : Relation.ReflTransGen (Step R) s s') : t ∉ s'.order := by
  intro ht
  obtain ⟨-, hinv⟩ := hs.run_frame hlaw h
  obtain ⟨v, hv⟩ := hinv.clean_committed ht a ((earlier_answers h t).subset ha) hdooms
  rw [hrefused] at hv
  cases hv

/-- Every call of this kind since the given number of answers only reads, and was answered so. -/
structure Repeats (P : List ρ → Prop) (call : γ) (result : Except ε α) (n : ℕ) (x : Tx γ ρ ε α) :
    Prop where
  answered : ∀ (j : ℕ) a, n ≤ j → x.answers[j]? = some a → a.call = call →
    a.added = [] ∧ a.result = result
  running : ∀ added rest, x.phase = .running call added rest → added = [] ∧ Reads P result rest

theorem Repeats.enter {P : List ρ → Prop} {result : Except ε α} {n : ℕ} {phase : Phase γ ρ ε α}
    (h : Repeats P call result n x)
    (hphase : ∀ added rest, phase = .running call added rest →
      added = [] ∧ Reads P result rest) : Repeats P call result n { x with phase } :=
  ⟨h.answered, hphase⟩

theorem repeats_step {P : List ρ → Prop} {result : Except ε α} {n : ℕ}
    (hreads : Reads P result (R.script call)) (hP : t ∉ s.order → s.Live t → P (s.view t))
    (hs : Inv R J Post s) (h : Repeats P call result n (s.txs t)) (hstep : Step R s s') :
    Repeats P call result n (s'.txs t) := by
  have hset : ∀ u x, (u = t → Repeats P call result n x) →
      Repeats P call result n ((s.set u x).txs t) := by
    intro u x hx
    by_cases hut : u = t
    · subst hut
      rw [set_self]
      exact hx rfl
    · rw [set_of_ne (Ne.symm hut)]
      exact h
  cases hstep with
  | call u other hidle =>
    refine hset u _ ?_
    rintro rfl
    refine h.enter ?_
    rintro added rest ⟨⟩
    exact ⟨rfl, hreads⟩
  | @query u other added next hphase =>
    refine hset u _ ?_
    rintro rfl
    refine h.enter ?_
    rintro added' rest ⟨⟩
    obtain ⟨hadded, hrest⟩ := h.running _ _ hphase
    refine ⟨hadded, ?_⟩
    have hopen : u ∉ s.order := hs.not_mem_order (by rw [hphase]; exact nofun)
    have hlive : s.Live u := by
      rw [Live, hphase]
      exact nofun
    cases hrest with
    | query hnext => exact hnext _ (hP hopen hlive)
  | insert u hphase =>
    refine hset u _ ?_
    rintro rfl
    refine h.enter ?_
    rintro added rest ⟨⟩
    obtain ⟨-, hrest⟩ := h.running _ _ hphase
    cases hrest
  | refuse u hphase =>
    refine hset u _ ?_
    rintro rfl
    refine h.enter ?_
    rintro added rest ⟨⟩
    obtain ⟨-, hrest⟩ := h.running _ _ hphase
    cases hrest
  | @answer u other added last hphase =>
    refine hset u _ ?_
    rintro rfl
    refine ⟨fun j a hj ha hcall => ?_, fun added' rest hrunning => ?_⟩
    · rw [List.getElem?_append] at ha
      split at ha
      · exact h.answered j a hj ha hcall
      · rw [List.getElem?_singleton] at ha
        split at ha
        · cases ha
          subst hcall
          obtain ⟨hadded, hrest⟩ := h.running _ _ hphase
          cases hrest with
          | done => exact ⟨hadded, rfl⟩
        · cases ha
    · rcases R.settled_cases other last with hidle | haborted
      · rw [hidle] at hrunning
        cases hrunning
      · rw [haborted] at hrunning
        cases hrunning
  | commit u _ =>
    refine hset u _ ?_
    rintro rfl
    exact h.enter fun _ _ => nofun
  | rollback u _ =>
    refine hset u _ ?_
    rintro rfl
    exact h.enter fun _ _ => nofun

/-- A call that only reads what every later view shows is answered in that one way from here on,
whatever the transactions do in whatever order. -/
theorem repeats_run {P : List ρ → Prop} {result : Except ε α} (hlaw : Lawful R J Post)
    (hs : Inv R J Post s) (hreads : Reads P result (R.script call))
    (hP : ∀ s', Relation.ReflTransGen (Step R) s s' → t ∉ s'.order → s'.Live t → P (s'.view t))
    (hidle : (s.txs t).phase = .idle) (h : Relation.ReflTransGen (Step R) s s') :
    Repeats P call result (s.txs t).answers.length (s'.txs t) := by
  induction h with
  | refl =>
    refine ⟨fun j a hj ha => ?_, fun added rest hrunning => ?_⟩
    · rw [List.getElem?_eq_none hj] at ha
      cases ha
    · rw [hidle] at hrunning
      cases hrunning
  | tail hrun hstep ih => exact repeats_step hreads (hP _ hrun) (hs.run_frame hlaw hrun).2 ih hstep

theorem committed_prefix (hs : Inv R J Post s) (hlaw : Lawful R J Post)
    (h : Relation.ReflTransGen (Step R) s s') : s.committed <+: s'.committed := by
  obtain ⟨⟨⟨later, horder⟩, hsame⟩, -⟩ := hs.run_frame hlaw h
  refine ⟨later.flatMap fun u => (s'.txs u).rows, ?_⟩
  rw [Store.committed, Store.committed, ← horder, List.flatMap_append]
  congr 1
  refine congrArg List.flatten (List.map_congr_left fun u hu => ?_)
  rw [hsame u hu]

end Inv
end

end Transactions
