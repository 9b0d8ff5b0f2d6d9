import QaRunner.Lib.Interleaving

/-! Commands that publish at most once: authority, what is stored already, a locked snapshot and
a publication, each read or written in a step of its own. -/
namespace PublishOnce
open Interleaving Prog

/-- A stored value, and whether it was there before. -/
structure ReplayResult (V : Type) where
  value : V
  replayed : Bool
  deriving DecidableEq

/-- What the stages of such a command do. -/
structure Handler (σ ε A V W S P β : Type) where
  require : Prog σ ε A
  answer : A → Option β := fun _ => none
  lookup : A → σ → Except ε (Option V)
  replay : A → V → Except ε β
  lock : A → σ → Except ε S
  prepare : A → S → Except ε P
  publish : P → σ → Except ε (ReplayResult W × σ)
  finish : ReplayResult W → β

variable {σ ε A V W S P β : Type}

namespace Handler

variable (h : Handler σ ε A V W S P β)

/-- Nothing is stored yet: lock, prepare and publish. -/
def publishNew (a : A) : Prog σ ε β := do
  let snapshot ← read (h.lock a)
  let publication ← lift (h.prepare a snapshot)
  let result ← call (h.publish publication)
  return h.finish result

def settle (a : A) : Option V → Prog σ ε β
  | some stored => lift (h.replay a stored)
  | none => h.publishNew a

def authorized (a : A) : Prog σ ε β :=
  match h.answer a with
  | some result => lift (.ok result)
  | none => read (h.lookup a) >>= h.settle a

def execute : Prog σ ε β := h.require >>= h.authorized

variable {h} {R : σ → σ → Prop} {a : A} {s s' : σ} {steps : List (σ × σ)} {result : Except ε β}

theorem publishNew_oneWrite (a : A) : OneWrite (h.publishNew a) := by
  refine (quiet_read _).oneWrite_bind fun snapshot => ?_
  refine (Quiet.done _).oneWrite_bind fun publication => ?_
  exact oneWrite_call _ _

theorem execute_oneWrite (hrequire : Quiet h.require) : OneWrite h.execute := by
  refine hrequire.oneWrite_bind fun a => ?_
  unfold authorized
  cases h.answer a with
  | some result => exact .done _
  | none =>
    refine (quiet_read _).oneWrite_bind fun stored => ?_
    cases stored with
    | some v => exact .done _
    | none => exact publishNew_oneWrite a

/-- Three steps after the authority. -/
theorem execute_within {n : ℕ} (hrequire : Within n h.require) : Within (n + 3) h.execute := by
  refine hrequire.bind fun a => ?_
  unfold authorized
  cases h.answer a with
  | some result => exact .done _ _
  | none =>
    refine Within.bind (m := 1) (n := 2) (within_read _) fun stored => ?_
    cases stored with
    | some v => exact .done _ _
    | none =>
      refine Within.bind (m := 1) (n := 1) (within_read _) fun snapshot => ?_
      refine Within.bind (m := 0) (n := 1) (.done _ _) fun publication => ?_
      exact Within.bind (m := 1) (n := 0) (within_call _) fun result => .done _ _

section
variable {ι α : Type} [DecidableEq ι] {env : σ → σ → Prop} {c : Config ι σ ε α} {i : ι}
  {f : β → Prog σ ε α}

/-- Once it has its authority, an execution that finds nothing stored looks twice before it
publishes. -/
theorem run_authorized {snapshot : S} {p : P} (hi : c.progs i = h.authorized a >>= f)
    (hanswer : h.answer a = none) (hlookup : h.lookup a c.store = .ok none)
    (hlock : h.lock a c.store = .ok snapshot) (hprepare : h.prepare a snapshot = .ok p) :
    Run env c (List.replicate 2 ⟨some i, c.store, c.store⟩) ⟨c.store, Function.update c.progs i
      (call (h.publish p) >>= fun r => f (h.finish r))⟩ := by
  have hauthorized : h.authorized a = read (h.lookup a) >>= h.settle a := by
    rw [authorized, hanswer]
  have hpublishes : (lift (h.prepare a snapshot) >>= fun p => call (h.publish p) >>= fun r =>
      pure (h.finish r)) >>= f = call (h.publish p) >>= fun r => f (h.finish r) := by
    rw [hprepare]
    show (call (h.publish p) >>= fun r => pure (h.finish r)) >>= f = _
    rw [Prog.bind_assoc]
    rfl
  rw [hauthorized, Prog.bind_assoc] at hi
  refine .of_read hi hlookup ?_
  rw [settle, publishNew, Prog.bind_assoc]
  refine .of_read (i := i) (Function.update_self ..) hlock ?_
  rw [Function.update_idem, hpublishes]
  exact .refl ⟨c.store, _⟩

theorem run_loaded {look : σ → Except ε A} {snapshot : S} {p : P}
    (hi : c.progs i = h.execute >>= f) (hrequire : h.require = read look)
    (hlook : look c.store = .ok a) (hanswer : h.answer a = none)
    (hlookup : h.lookup a c.store = .ok none) (hlock : h.lock a c.store = .ok snapshot)
    (hprepare : h.prepare a snapshot = .ok p) :
    Run env c (List.replicate 3 ⟨some i, c.store, c.store⟩) ⟨c.store, Function.update c.progs i
      (call (h.publish p) >>= fun r => f (h.finish r))⟩ := by
  rw [execute, hrequire, Prog.bind_assoc] at hi
  refine .of_read hi hlook ?_
  have hloaded : Run env ⟨c.store, Function.update c.progs i (h.authorized a >>= f)⟩ _ _ :=
    run_authorized (i := i) (Function.update_self ..) hanswer hlookup hlock hprepare
  rw [Function.update_idem] at hloaded
  exact hloaded

end

/-- A publication that was refused, or its one write. -/
theorem of_publish [IsPreorder σ R] {p : P} (hthread : Thread R
      (call (h.publish p) >>= fun r => pure (h.finish r)) s steps (.done result) s') :
    ((∃ e, result = .error e) ∧ Unchanged steps) ∨ ∃ w w' r, R s w ∧
      h.publish p w = .ok (r, w') ∧ R w' s' ∧ steps = [(w, w')] ∧ result = .ok (h.finish r) := by
  rcases hthread.of_bind with ⟨e, rfl, hcall⟩ | ⟨r, first, second, t, rfl, hcall, hrest⟩
  · obtain ⟨w, -, -, rfl, hresult⟩ := hcall.of_call
    cases hpublish : h.publish p w with
    | ok published =>
      rw [hpublish] at hresult
      cases hresult
    | error e =>
      rw [written_of_error hpublish]
      exact Or.inl ⟨⟨_, rfl⟩, unchanged_cons nofun⟩
  · obtain ⟨w, hsw, hwt, rfl, hresult⟩ := hcall.of_call
    obtain ⟨hdone, rfl, hts'⟩ := hrest.of_done
    cases hdone
    cases hpublish : h.publish p w with
    | error e =>
      rw [hpublish] at hresult
      cases hresult
    | ok published =>
      obtain ⟨r', w'⟩ := published
      rw [hpublish] at hresult
      cases hresult
      rw [written_of_ok hpublish] at hwt ⊢
      exact Or.inr ⟨w, w', _, hsw, hpublish, trans_of R hwt hts', rfl, rfl⟩

/-- The snapshot is locked and the publication prepared before anything is written. -/
theorem of_publishNew [IsPreorder σ R]
    (hthread : Thread R (h.publishNew a) s steps (.done result) s') :
    ((∃ e, result = .error e) ∧ Unchanged steps) ∨ ∃ u w w' snapshot p r, R s u ∧
      h.lock a u = .ok snapshot ∧ h.prepare a snapshot = .ok p ∧ R u w ∧
      h.publish p w = .ok (r, w') ∧ R w' s' ∧ steps = [(u, u), (w, w')] ∧
      result = .ok (h.finish r) := by
  rcases hthread.of_bind with ⟨e, rfl, hread⟩ | ⟨snapshot, first, second, t, rfl, hread, hrest⟩
  · obtain ⟨u, -, -, rfl, -⟩ := hread.of_read
    exact Or.inl ⟨⟨_, rfl⟩, unchanged_cons nofun⟩
  · obtain ⟨u, hsu, hut, rfl, hlock⟩ := hread.of_read
    rcases hrest.of_bind with ⟨e, rfl, hlift⟩ | ⟨p, first, third, t', rfl, hlift, hcall⟩
    · obtain ⟨-, rfl, -⟩ := hlift.of_done
      exact Or.inl ⟨⟨_, rfl⟩, unchanged_cons nofun⟩
    · obtain ⟨hprepare, rfl, htt'⟩ := hlift.of_done
      rcases of_publish hcall with ⟨herror, hunchanged⟩ | ⟨w, w', r, htw, hpublish, hws', rfl, rfl⟩
      · exact Or.inl ⟨herror, unchanged_cons hunchanged⟩
      · have huw : R u w := trans_of R hut (trans_of R htt' htw)
        have hprepare : h.prepare a snapshot = .ok p := (Prog.done.inj hprepare).symm
        exact Or.inr ⟨u, w, w', snapshot, p, r, hsu, hlock, hprepare, huw, hpublish, hws', rfl, rfl⟩

/-- The ways an execution goes once it has its authority. -/
inductive Course (h : Handler σ ε A V W S P β) (R : σ → σ → Prop) (a : A) (s s' : σ) :
    List (σ × σ) → Except ε β → Prop
  | answered {b : β} (hss : R s s') (hanswer : h.answer a = some b) : Course h R a s s' [] (.ok b)
  | unread {t e} (hst : R s t) (hts : R t s') (hlookup : h.lookup a t = .error e) :
      Course h R a s s' [(t, t)] (.error e)
  | stored {t v} (hst : R s t) (hts : R t s') (hlookup : h.lookup a t = .ok (some v)) :
      Course h R a s s' [(t, t)] (h.replay a v)
  | refused {t e} {taken : List (σ × σ)} (hst : R s t) (hts : R t s')
      (hlookup : h.lookup a t = .ok none) (hunchanged : Unchanged taken) :
      Course h R a s s' taken (.error e)
  | published {t u w w' snapshot p r} (hst : R s t) (hts : R t s')
      (hlookup : h.lookup a t = .ok none) (htu : R t u) (hlock : h.lock a u = .ok snapshot)
      (hprepare : h.prepare a snapshot = .ok p) (huw : R u w)
      (hpublish : h.publish p w = .ok (r, w')) (hws : R w' s') :
      Course h R a s s' [(t, t), (u, u), (w, w')] (.ok (h.finish r))

theorem course_of_authorized [IsPreorder σ R] (hg : Guarantees R (h.publishNew a) s)
    (hthread : Thread R (h.authorized a) s steps (.done result) s') :
    h.Course R a s s' steps result := by
  unfold authorized at hthread
  cases hanswer : h.answer a with
  | some r =>
    simp only [hanswer] at hthread
    obtain ⟨hdone, rfl, hss⟩ := hthread.of_done
    cases hdone
    exact .answered hss hanswer
  | none =>
    simp only [hanswer] at hthread
    rcases hthread.of_bind with ⟨e, rfl, hread⟩ | ⟨stored, first, second, s₁, rfl, hread, hrest⟩
    · obtain ⟨t, hst, hts, rfl, hlookup⟩ := hread.of_read
      exact .unread hst hts hlookup
    · obtain ⟨t, hst, hts₁, rfl, hlookup⟩ := hread.of_read
      cases stored with
      | some v =>
        obtain ⟨hdone, rfl, hs₁s'⟩ := hrest.of_done
        cases hdone
        exact .stored hst (trans_of R hts₁ hs₁s') hlookup
      | none =>
        have hts' : R t s' :=
          trans_of R hts₁ (hrest.related (hg.other (trans_of R hst hts₁)))
        rcases of_publishNew hrest with ⟨⟨e, rfl⟩, hunchanged⟩ |
          ⟨u, w, w', snapshot, p, r, hs₁u, hlock, hprepare, huw, hpublish, hws', rfl, rfl⟩
        · exact .refused hst hts' hlookup (unchanged_cons hunchanged)
        · exact .published hst hts' hlookup (trans_of R hts₁ hs₁u) hlock hprepare huw hpublish hws'

/-- An execution that has ended failed to get its authority, or took one of those ways. -/
theorem course_of_execute [IsPreorder σ R]
    (hg : ∀ first a t, Thread R h.require s first (.done (.ok a)) t →
      Guarantees R (h.publishNew a) t)
    (hrequire : Quiet h.require) (hthread : Thread R h.execute s steps (.done result) s') :
    ((∃ e, result = .error e) ∧ Unchanged steps) ∨ ∃ a first second t, steps = first ++ second ∧
      Unchanged first ∧ Thread R h.require s first (.done (.ok a)) t ∧
      h.Course R a t s' second result := by
  rcases hthread.of_bind with ⟨e, rfl, hfail⟩ | ⟨a, first, second, t, rfl, hfirst, hrest⟩
  · exact Or.inl ⟨⟨e, rfl⟩, hfail.unchanged hrequire⟩
  · exact Or.inr ⟨a, first, second, t, rfl, hfirst.unchanged hrequire, hfirst,
      course_of_authorized (hg first a t hfirst) hrest⟩

/-- An execution that gets no authority has failed. -/
theorem execute_refused [IsPreorder σ R] (hrequire : Quiet h.require)
    (hrefused : ∀ first a t, first <+: steps → ¬ Thread R h.require s first (.done (.ok a)) t)
    (hthread : Thread R h.execute s steps (.done result) s') :
    (∃ e, result = .error e) ∧ Unchanged steps := by
  rcases hthread.of_bind with ⟨e, rfl, hfail⟩ | ⟨a, first, second, t, rfl, hfirst, -⟩
  · exact ⟨⟨e, rfl⟩, hfail.unchanged hrequire⟩
  · exact absurd hfirst (hrefused first a t (List.prefix_append _ _))

theorem execute_refused_of_read [IsPreorder σ R] {look : σ → Except ε A}
    (hrequire : h.require = read look)
    (hrefused : ∀ t rest, steps = (t, t) :: rest → ∀ a, look t ≠ .ok a)
    (hthread : Thread R h.execute s steps (.done result) s') :
    (∃ e, result = .error e) ∧ Unchanged steps := by
  refine execute_refused (hrequire ▸ quiet_read look) (fun first a t hprefix hfirst => ?_) hthread
  rw [hrequire] at hfirst
  obtain ⟨u, -, -, rfl, hlook⟩ := hfirst.of_read
  obtain ⟨rest, rfl⟩ := hprefix
  exact hrefused u rest rfl a hlook

/-- What is found at every lookup is what the execution answers with. -/
theorem Course.of_found {v : V} (hcourse : h.Course R a s s' steps result)
    (hanswer : h.answer a = none)
    (hfound : ∀ t, R s t → R t s' → h.lookup a t = .ok (some v)) :
    result = h.replay a v ∧ Unchanged steps := by
  cases hcourse with
  | answered _ hsome =>
    rw [hanswer] at hsome
    cases hsome
  | unread hst hts hlookup =>
    have hsame := (hfound _ hst hts).symm.trans hlookup
    cases hsame
  | stored hst hts hlookup =>
    have hsame := (hfound _ hst hts).symm.trans hlookup
    cases hsame
    exact ⟨rfl, unchanged_cons nofun⟩
  | refused hst hts hlookup =>
    have hsame := (hfound _ hst hts).symm.trans hlookup
    cases hsame
  | published hst hts hlookup =>
    have hsame := (hfound _ hst hts).symm.trans hlookup
    cases hsame

/-- A publication repeats what is stored, or makes the first entry. -/
inductive Stores (Shows : W → σ → Prop) (Made : σ → W → σ → Prop) (s : σ) :
    ReplayResult W → σ → Prop
  | repeated {w} (hshown : Shows w s) : Stores Shows Made s ⟨w, true⟩ s
  | first {w s'} (hmade : Made s w s') : Stores Shows Made s ⟨w, false⟩ s'

/-- What a command relies on its store for: `Holds` says what is stored, `Shows` what of it a
publication returns, `Made` what a first publication does, `Granted` and `Locked` what the command
has read already, and `R` what any step of the store keeps. -/
structure Lawful (h : Handler σ ε A V W S P β) (R : σ → σ → Prop) (Inv : σ → Prop)
    (Granted : A → σ → Prop) (Locked : A → S → σ → Prop) (Holds : V → σ → Prop)
    (Shows : W → σ → Prop) (Made : σ → W → σ → Prop) : Prop where
  quiet : Quiet h.require
  inv : ∀ {s s'}, R s s' → Inv s → Inv s'
  holds : ∀ {v s s'}, R s s' → Inv s → Holds v s → Holds v s'
  shows : ∀ {w s s'}, R s s' → Inv s → Shows w s → Shows w s'
  made : ∀ {w s s'}, Made s w s' → Shows w s'
  stays : ∀ {a s s'}, R s s' → Granted a s → Granted a s'
  locked : ∀ {a snapshot s s'}, R s s' → Locked a snapshot s → Locked a snapshot s'
  granted : ∀ {s steps a s'}, Thread R h.require s steps (.done (.ok a)) s' → Inv s → Granted a s'
  lookup : ∀ {a v s}, Granted a s → Inv s → h.lookup a s = .ok (some v) → Holds v s
  lock : ∀ {a snapshot s}, Granted a s → Inv s → h.lock a s = .ok snapshot → Locked a snapshot s
  publish : ∀ {a snapshot p s r s'}, Granted a s → Locked a snapshot s → Inv s →
    h.prepare a snapshot = .ok p → h.publish p s = .ok (r, s') →
    R s s' ∧ Stores Shows Made s r s'

/-- How an execution ends, and the one way in which it changes the store. -/
inductive Outcome (h : Handler σ ε A V W S P β) (R : σ → σ → Prop) (Granted : A → σ → Prop)
    (Holds : V → σ → Prop) (Shows : W → σ → Prop) (Made : σ → W → σ → Prop) (s' : σ) :
    List (σ × σ) → Except ε β → Prop
  | failed {taken : List (σ × σ)} {e} (hunchanged : Unchanged taken) :
      Outcome h R Granted Holds Shows Made s' taken (.error e)
  | answered {taken : List (σ × σ)} {a b} (hgranted : Granted a s')
      (hanswer : h.answer a = some b) (hunchanged : Unchanged taken) :
      Outcome h R Granted Holds Shows Made s' taken (.ok b)
  | stored {taken : List (σ × σ)} {a v b} (hgranted : Granted a s') (hreplay : h.replay a v = .ok b)
      (hheld : Holds v s') (hunchanged : Unchanged taken) :
      Outcome h R Granted Holds Shows Made s' taken (.ok b)
  | repeated {taken : List (σ × σ)} {w} (hshown : Shows w s') (hunchanged : Unchanged taken) :
      Outcome h R Granted Holds Shows Made s' taken (.ok (h.finish ⟨w, true⟩))
  | published {taken : List (σ × σ)} {u u' w} (hunchanged : Unchanged taken)
      (hmade : Made u w u') (hrest : R u' s') (hshown : Shows w s') :
      Outcome h R Granted Holds Shows Made s' (taken ++ [(u, u')]) (.ok (h.finish ⟨w, false⟩))

namespace Lawful

variable {Inv : σ → Prop} {Granted : A → σ → Prop} {Locked : A → S → σ → Prop}
  {Holds : V → σ → Prop} {Shows : W → σ → Prop} {Made : σ → W → σ → Prop}
  [IsPreorder σ R]
  (hl : Lawful h R Inv Granted Locked Holds Shows Made)
include hl

theorem publishNew_guarantees (hs : Inv s) (hgranted : Granted a s) :
    Guarantees R (h.publishNew a) s := by
  refine ((quiet_read _).guarantees (refl_of R) s).bind fun _ snapshot t hread => ?_
  obtain ⟨u, hsu, hut, -, hlock⟩ := hread.of_read
  have hlocked : Locked a snapshot t :=
    hl.locked hut (hl.lock (hl.stays hsu hgranted) (hl.inv hsu hs) hlock)
  refine (Guarantees.done _ t).bind fun _ p v hlift => ?_
  obtain ⟨hprepare, -, htv⟩ := hlift.of_done
  have hsv : R s v := trans_of R hsu (trans_of R hut htv)
  refine (guarantees_call (refl_of R) fun w r w' hvw hpublish => ?_).bind fun _ _ _ _ => .done _ _
  have hsw : R s w := trans_of R hsv hvw
  exact (hl.publish (hl.stays hsw hgranted) (hl.locked (trans_of R htv hvw) hlocked)
    (hl.inv hsw hs) (Prog.done.inj hprepare).symm hpublish).1

theorem require_related {first : List (σ × σ)} {r : Except ε A} {t : σ}
    (hrequire : Thread R h.require s first (.done r) t) : R s t :=
  hrequire.related (hl.quiet.guarantees (refl_of R) s)

theorem authorized_guarantees (hs : Inv s) (first : List (σ × σ)) (a : A) (t : σ)
    (hrequire : Thread R h.require s first (.done (.ok a)) t) :
    Guarantees R (h.publishNew a) t :=
  hl.publishNew_guarantees (hl.inv (hl.require_related hrequire) hs) (hl.granted hrequire hs)

theorem execute_guarantees (hs : Inv s) : Guarantees R h.execute s := by
  refine (hl.quiet.guarantees (refl_of R) s).bind fun first a t hrequire => ?_
  have hg := hl.authorized_guarantees hs first a t hrequire
  unfold authorized
  cases h.answer a with
  | some result => exact .done _ _
  | none =>
    refine ((quiet_read _).guarantees (refl_of R) t).bind fun _ stored u hread => ?_
    cases stored with
    | some v => exact .done _ _
    | none =>
      obtain ⟨_, htv, hvu, -, -⟩ := hread.of_read
      exact hg.other (trans_of R htv hvu)

/-- An execution that gets an authority under which every lookup finds the same answers with it. -/
theorem replays (hs : Inv s) {v : V} {Good : A → Prop} (hanswer : ∀ a, Good a → h.answer a = none)
    (hrequire : ∀ first r t, first <+: steps → Thread R h.require s first (.done r) t →
      ∃ a, r = .ok a ∧ Good a)
    (hfound : ∀ a t, Good a → R s t → R t s' → h.lookup a t = .ok (some v))
    (hthread : Thread R h.execute s steps (.done result) s') :
    ∃ a, Good a ∧ result = h.replay a v ∧ Unchanged steps := by
  rcases hthread.of_bind with ⟨e, -, hfail⟩ | ⟨a, first, second, t, rfl, hfirst, hrest⟩
  · obtain ⟨a, ha, -⟩ := hrequire steps _ s' List.prefix_rfl hfail
    cases ha
  · obtain ⟨_, ha, hgood⟩ := hrequire first _ t (List.prefix_append _ _) hfirst
    cases ha
    have hst : R s t := hl.require_related hfirst
    have hcourse := course_of_authorized (hl.authorized_guarantees hs first a t hfirst) hrest
    obtain ⟨hresult, hunchanged⟩ := hcourse.of_found (hanswer a hgood) fun u htu hus =>
      hfound a u hgood (trans_of R hst htu) hus
    exact ⟨a, hgood, hresult, unchanged_append (hfirst.unchanged hl.quiet) hunchanged⟩

theorem replays_of_read (hs : Inv s) {v : V} {look : σ → Except ε A}
    (hrequire : h.require = read look) (hanswer : ∀ a, h.answer a = none)
    (hcurrent : ∀ t rest, steps = (t, t) :: rest → ∃ a, look t = .ok a)
    (hfound : ∀ a t, R s t → R t s' → h.lookup a t = .ok (some v))
    (hthread : Thread R h.execute s steps (.done result) s') :
    ∃ a, (∃ t, look t = .ok a) ∧ result = h.replay a v ∧ Unchanged steps := by
  refine hl.replays hs (fun a (_ : ∃ t, look t = .ok a) => hanswer a) ?_
    (fun a t _ => hfound a t) hthread
  intro first r t hprefix hfirst
  rw [hrequire] at hfirst
  obtain ⟨u, -, -, rfl, rfl⟩ := hfirst.of_read
  obtain ⟨rest, rfl⟩ := hprefix
  obtain ⟨a, hlook⟩ := hcurrent u rest rfl
  exact ⟨a, hlook, u, hlook⟩

/-- An execution whose every lookup finds the same has failed, or replays it. -/
theorem found (hs : Inv s) {v : V} (hanswer : ∀ a, h.answer a = none)
    (hfound : ∀ a t, R s t → R t s' → h.lookup a t = .ok (some v))
    (hthread : Thread R h.execute s steps (.done result) s') :
    ((∃ e, result = .error e) ∨ ∃ a t, Granted a t ∧ result = h.replay a v) ∧ Unchanged steps := by
  rcases course_of_execute (hl.authorized_guarantees hs) hl.quiet hthread with
    ⟨herror, hunchanged⟩ | ⟨a, first, second, t, rfl, hunchanged, hrequire, hcourse⟩
  · exact ⟨.inl herror, hunchanged⟩
  · have hst : R s t := hl.require_related hrequire
    obtain ⟨hresult, hquiet⟩ := hcourse.of_found (hanswer a) fun u htu hus =>
      hfound a u (trans_of R hst htu) hus
    exact ⟨.inr ⟨a, t, hl.granted hrequire hs, hresult⟩, unchanged_append hunchanged hquiet⟩

/-- Among any others, an execution that has ended has failed, answers with what is stored, or was
the one to store it. -/
theorem outcome (hs : Inv s) (hthread : Thread R h.execute s steps (.done result) s') :
    h.Outcome R Granted Holds Shows Made s' steps result := by
  rcases course_of_execute (hl.authorized_guarantees hs) hl.quiet hthread with
    ⟨⟨e, rfl⟩, hunchanged⟩ | ⟨a, first, second, t, rfl, hunchanged, hrequire, hcourse⟩
  · exact .failed hunchanged
  have hgranted : Granted a t := hl.granted hrequire hs
  have ht : Inv t := hl.inv (hl.require_related hrequire) hs
  have hg := hl.authorized_guarantees hs first a t hrequire
  cases hcourse with
  | answered hts' hanswer =>
    rw [List.append_nil]
    exact .answered (hl.stays hts' hgranted) hanswer hunchanged
  | unread => exact .failed (unchanged_append hunchanged (unchanged_cons nofun))
  | @stored u v htu hus' hlookup =>
    have hquiet : Unchanged (first ++ [(u, u)]) :=
      unchanged_append hunchanged (unchanged_cons nofun)
    have hu : Inv u := hl.inv htu ht
    have hgranted : Granted a u := hl.stays htu hgranted
    have hheld : Holds v s' := hl.holds hus' hu (hl.lookup hgranted hu hlookup)
    cases hreplay : h.replay a v with
    | error e => exact .failed hquiet
    | ok b => exact .stored (hl.stays hus' hgranted) hreplay hheld hquiet
  | refused _ _ _ hquiet => exact .failed (unchanged_append hunchanged hquiet)
  | @published u x w w' snapshot p r htu _ _ hux hlock hprepare hxw hpublish hw's' =>
    have htx : R t x := trans_of R htu hux
    have hx : Inv x := hl.inv htx ht
    have hw : Inv w := hl.inv hxw hx
    have hlocked : Locked a snapshot w := hl.locked hxw (hl.lock (hl.stays htx hgranted) hx hlock)
    obtain ⟨hww', hstores⟩ := hl.publish (hl.stays (trans_of R htx hxw) hgranted) hlocked hw
      hprepare hpublish
    have hw' : Inv w' := hl.inv hww' hw
    have hquiet : Unchanged (first ++ [(u, u), (x, x)]) :=
      unchanged_append hunchanged (unchanged_cons (unchanged_cons nofun))
    have hsteps : first ++ [(u, u), (x, x), (w, w')] = first ++ [(u, u), (x, x)] ++ [(w, w')] := by
      rw [List.append_assoc]
      rfl
    rw [hsteps]
    cases hstores with
    | repeated hshown =>
      exact .repeated (hl.shows hw's' hw hshown) (unchanged_append hquiet (unchanged_cons nofun))
    | first hmade => exact .published hquiet hmade hw's' (hl.shows hw's' hw' (hl.made hmade))

end Lawful

end Handler

end PublishOnce
