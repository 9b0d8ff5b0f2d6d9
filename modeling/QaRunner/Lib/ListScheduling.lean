import Mathlib.Data.Int.Notation
import Mathlib.Data.List.Perm.Basic
import Mathlib.Data.Nat.Notation

/-! Greedy scheduling: jobs are taken in order, and each is put into the first of the bins that
carry the least. -/
namespace ListScheduling

/-- What a bin carries in total, and what it holds. -/
structure Bin (β : Type) where
  load : ℤ
  held : List β
  deriving DecidableEq

variable {α β : Type}

/-- The place of the first bin that carries the least. -/
def least (bins : List (Bin β)) : ℕ :=
  bins.findIdx fun b => bins.all fun c => b.load ≤ c.load

section
variable (weight : α → ℤ) (contents : α → List β)

def assign (bins : List (Bin β)) (job : α) : List (Bin β) :=
  bins.modify (least bins) fun b => ⟨b.load + weight job, b.held ++ contents job⟩

def schedule (bins : List (Bin β)) (jobs : List α) : List (Bin β) :=
  jobs.foldl (assign weight contents) bins

end

/-- The bins that hold something. -/
def busy (bins : List (Bin β)) : ℕ := bins.countP fun b => !b.held.isEmpty

section
variable {weight : α → ℤ} {contents : α → List β} {bins before after : List (Bin β)} {b c : Bin β}
  {job : α} {jobs : List α}

/-- The bin `b` is the first that carries the least. -/
structure First (before : List (Bin β)) (b : Bin β) (after : List (Bin β)) : Prop where
  before : ∀ c ∈ before, b.load < c.load
  after : ∀ c ∈ after, b.load ≤ c.load

theorem First.le (h : First before b after) (hc : c ∈ before ++ b :: after) : b.load ≤ c.load := by
  rcases List.mem_append.mp hc with hc | hc
  · exact Int.le_of_lt (h.before c hc)
  · rcases List.mem_cons.mp hc with rfl | hc
    · exact Int.le_refl _
    · exact h.after c hc

theorem exists_first (h : bins ≠ []) :
    ∃ before b after, bins = before ++ b :: after ∧ First before b after := by
  induction bins with
  | nil => exact absurd rfl h
  | cons c bins ih =>
    by_cases hbins : bins = []
    · subst hbins
      exact ⟨[], c, [], rfl, ⟨fun d hd => absurd hd List.not_mem_nil,
        fun d hd => absurd hd List.not_mem_nil⟩⟩
    · obtain ⟨before, b, after, rfl, hbefore, hafter⟩ := ih hbins
      by_cases hc : c.load ≤ b.load
      · refine ⟨[], c, before ++ b :: after, rfl, fun d hd => absurd hd List.not_mem_nil, ?_⟩
        intro d hd
        rcases List.mem_append.mp hd with hd | hd
        · have := hbefore d hd
          omega
        · rcases List.mem_cons.mp hd with rfl | hd
          · exact hc
          · have := hafter d hd
            omega
      · refine ⟨c :: before, b, after, rfl, ?_, hafter⟩
        intro d hd
        rcases List.mem_cons.mp hd with rfl | hd
        · omega
        · exact hbefore d hd

/-- A search passes over what it does not want. -/
theorem findIdx_append {p : Bin β → Bool} (hbefore : ∀ c ∈ before, p c = false)
    (hb : p b = true) : (before ++ b :: after).findIdx p = before.length := by
  induction before with
  | nil => rw [List.nil_append, List.findIdx_cons, hb, cond_true, List.length_nil]
  | cons c before ih =>
    obtain ⟨hc, hrest⟩ := List.forall_mem_cons.mp hbefore
    rw [List.cons_append, List.findIdx_cons, hc, cond_false, ih hrest, List.length_cons]

theorem least_first (h : First before b after) :
    least (before ++ b :: after) = before.length := by
  apply findIdx_append
  · intro c hc
    apply List.all_eq_false.mpr
    refine ⟨b, List.mem_append_right _ List.mem_cons_self, ?_⟩
    have hlt := h.before c hc
    simpa using hlt
  · apply List.all_eq_true.mpr
    intro d hd
    exact decide_eq_true (h.le hd)

/-- A job goes to the first bin that carries the least. -/
theorem assign_first (h : First before b after) :
    assign weight contents (before ++ b :: after) job =
      before ++ ⟨b.load + weight job, b.held ++ contents job⟩ :: after := by
  rw [assign, least_first h]
  clear h
  induction before with
  | nil => rfl
  | cons c before ih => exact congrArg (c :: ·) ih

@[simp] theorem length_assign :
    (assign weight contents bins job).length = bins.length := List.length_modify _ _ _

@[simp] theorem length_schedule :
    (schedule weight contents bins jobs).length = bins.length := by
  induction jobs generalizing bins with
  | nil => rfl
  | cons job jobs ih =>
    show (schedule weight contents (assign weight contents bins job) jobs).length = bins.length
    rw [ih, length_assign]

theorem assign_ne_nil (h : bins ≠ []) : assign weight contents bins job ≠ [] := by
  rw [← List.length_pos_iff, length_assign]
  exact List.length_pos_iff.mpr h

/-- The bins hold what they held and what the job brings. -/
theorem held_assign (h : bins ≠ []) :
    ((assign weight contents bins job).flatMap Bin.held).Perm
      (bins.flatMap Bin.held ++ contents job) := by
  obtain ⟨before, b, after, rfl, hfirst⟩ := exists_first h
  rw [assign_first hfirst]
  simp only [List.flatMap_append, List.flatMap_cons, List.append_assoc]
  apply List.Perm.append_left
  apply List.Perm.append_left
  exact List.perm_append_comm

theorem held_schedule (h : bins ≠ []) :
    ((schedule weight contents bins jobs).flatMap Bin.held).Perm
      (bins.flatMap Bin.held ++ jobs.flatMap contents) := by
  induction jobs generalizing bins with
  | nil =>
    rw [List.flatMap_nil, List.append_nil]
    exact .refl _
  | cons job jobs ih =>
    have hne : assign weight contents bins job ≠ [] := assign_ne_nil h
    have hrest := (ih hne).trans ((held_assign h).append_right _)
    rw [List.append_assoc] at hrest
    exact hrest

theorem bins_ne_nil {n : ℕ} (hn : 0 < n) : (List.replicate n ⟨0, []⟩ : List (Bin β)) ≠ [] := by
  rw [← List.length_pos_iff, List.length_replicate]
  exact hn

/-- Bins that were empty hold what the jobs bring. -/
theorem held_schedule_empty {n : ℕ} (hn : 0 < n) :
    ((schedule weight contents (List.replicate n ⟨0, []⟩) jobs).flatMap Bin.held).Perm
      (jobs.flatMap contents) := by
  have hempty : (List.replicate n ⟨0, []⟩ : List (Bin β)).flatMap Bin.held = [] := by
    rw [List.flatMap_eq_nil_iff]
    intro b hb
    rw [List.eq_of_mem_replicate hb]
  have hheld := @held_schedule α β weight contents _ jobs (bins_ne_nil hn)
  rwa [hempty, List.nil_append] at hheld

/-- What was held together stays together. -/
theorem together_assign {held : List β} (h : ∃ b ∈ bins, ∀ x ∈ held, x ∈ b.held) :
    ∃ b ∈ assign weight contents bins job, ∀ x ∈ held, x ∈ b.held := by
  obtain ⟨b, hb, hheld⟩ := h
  obtain ⟨before, c, after, rfl, hfirst⟩ := exists_first (List.ne_nil_of_mem hb)
  rw [assign_first hfirst]
  rcases List.mem_append.mp hb with hb | hb
  · exact ⟨b, List.mem_append_left _ hb, hheld⟩
  · rcases List.mem_cons.mp hb with rfl | hb
    · exact ⟨_, List.mem_append_right _ List.mem_cons_self,
        fun x hx => List.mem_append_left _ (hheld x hx)⟩
    · exact ⟨b, List.mem_append_right _ (List.mem_cons_of_mem _ hb), hheld⟩

theorem together_after {held : List β} (h : ∃ b ∈ bins, ∀ x ∈ held, x ∈ b.held) :
    ∃ b ∈ schedule weight contents bins jobs, ∀ x ∈ held, x ∈ b.held := by
  induction jobs generalizing bins with
  | nil => exact h
  | cons job jobs ih => exact ih (together_assign h)

/-- Every job ends up in one bin. -/
theorem together_schedule (h : bins ≠ []) (hjob : job ∈ jobs) :
    ∃ b ∈ schedule weight contents bins jobs, ∀ x ∈ contents job, x ∈ b.held := by
  induction jobs generalizing bins with
  | nil => cases hjob
  | cons other jobs ih =>
    rcases List.mem_cons.mp hjob with rfl | hjob
    · have hassigned : ∃ b ∈ assign weight contents bins job, ∀ x ∈ contents job, x ∈ b.held := by
        obtain ⟨before, b, after, rfl, hfirst⟩ := exists_first h
        rw [assign_first hfirst]
        exact ⟨_, List.mem_append_right _ List.mem_cons_self,
          fun x hx => List.mem_append_right _ hx⟩
      show ∃ b ∈ schedule weight contents (assign weight contents bins job) jobs, _
      exact together_after hassigned
    · exact ih (assign_ne_nil h) hjob

/-- The bins that hold something are those that carry something. -/
def Tight (bins : List (Bin β)) : Prop :=
  ∀ b ∈ bins, 0 ≤ b.load ∧ (b.held ≠ [] ↔ 0 < b.load)

@[simp] theorem busy_append : busy (before ++ after) = busy before + busy after :=
  List.countP_append

@[simp] theorem busy_cons : busy (b :: bins) = busy bins + if b.held = [] then 0 else 1 := by
  rw [busy, busy, List.countP_cons]
  cases b.held with
  | nil => rfl
  | cons x held => rfl

theorem busy_le (bins : List (Bin β)) : busy bins ≤ bins.length := List.countP_le_length

theorem busy_eq_length : busy bins = bins.length ↔ ∀ b ∈ bins, b.held ≠ [] := by
  rw [busy, List.countP_eq_length]
  constructor
  · intro h b hb hempty
    have := h b hb
    rw [hempty] at this
    cases this
  · intro h b hb
    simpa using h b hb

/-- A job that weighs something goes to an empty bin while there is one. -/
theorem tight_assign (h : bins ≠ []) (htight : Tight bins) (hweight : 0 < weight job)
    (hcontents : contents job ≠ []) :
    Tight (assign weight contents bins job) ∧
      busy (assign weight contents bins job) = min bins.length (busy bins + 1) := by
  obtain ⟨before, b, after, rfl, hfirst⟩ := exists_first h
  rw [assign_first hfirst]
  have hb := htight b (List.mem_append_right _ List.mem_cons_self)
  have hheld : b.held ++ contents job ≠ [] := by simp [hcontents]
  constructor
  · intro c hc
    rcases List.mem_append.mp hc with hc | hc
    · exact htight c (List.mem_append_left _ hc)
    · rcases List.mem_cons.mp hc with rfl | hc
      · have hload : 0 < b.load + weight job := by omega
        exact ⟨Int.le_of_lt hload, fun _ => hload, fun _ => hheld⟩
      · exact htight c (List.mem_append_right _ (List.mem_cons_of_mem _ hc))
  · simp only [busy_append, busy_cons, if_neg hheld, List.length_append, List.length_cons]
    have hbefore := busy_le before
    have hafter := busy_le after
    by_cases hempty : b.held = []
    · simp only [if_pos hempty]
      omega
    · have hpositive := hb.2.mp hempty
      have hall : ∀ c ∈ before ++ b :: after, c.held ≠ [] := by
        intro c hc
        apply (htight c hc).2.mpr
        have := hfirst.le hc
        omega
      have hfull := busy_eq_length.mpr hall
      simp only [busy_append, busy_cons, if_neg hempty, List.length_append,
        List.length_cons] at hfull ⊢
      omega

theorem tight_schedule (h : bins ≠ []) (htight : Tight bins)
    (hjobs : ∀ job ∈ jobs, 0 < weight job ∧ contents job ≠ []) :
    Tight (schedule weight contents bins jobs) ∧
      busy (schedule weight contents bins jobs) = min bins.length (busy bins + jobs.length) := by
  induction jobs generalizing bins with
  | nil =>
    have hle := busy_le bins
    refine ⟨htight, ?_⟩
    show busy bins = min bins.length (busy bins + 0)
    omega
  | cons job jobs ih =>
    obtain ⟨⟨hweight, hcontents⟩, hrest⟩ := List.forall_mem_cons.mp hjobs
    obtain ⟨htight', hbusy⟩ := tight_assign h htight hweight hcontents
    obtain ⟨hlast, hcount⟩ := ih (assign_ne_nil h) htight' hrest
    refine ⟨hlast, ?_⟩
    rw [hbusy, length_assign] at hcount
    rw [List.length_cons]
    show busy (schedule weight contents (assign weight contents bins job) jobs) = _
    omega

/-- Jobs that weigh nothing pile up in one bin. -/
theorem busy_weightless (hfirst : First before b after) (hb : b.held ≠ [])
    (hjobs : ∀ job ∈ jobs, weight job = 0) :
    busy (schedule weight contents (before ++ b :: after) jobs) = busy (before ++ b :: after) := by
  induction jobs generalizing b with
  | nil => rfl
  | cons job jobs ih =>
    obtain ⟨hweight, hrest⟩ := List.forall_mem_cons.mp hjobs
    show busy (schedule weight contents (assign weight contents _ job) jobs) = _
    have hheld : b.held ++ contents job ≠ [] := by simp [hb]
    have hrun := ih (b := ⟨b.load, b.held ++ contents job⟩) ⟨hfirst.before, hfirst.after⟩ hheld
      hrest
    rw [assign_first hfirst, hweight, Int.add_zero, hrun]
    simp only [busy_append, busy_cons, if_neg hb, if_neg hheld]

/-- The first job that weighs nothing opens one more bin, if there is one. -/
theorem busy_then_weightless (h : bins ≠ []) (htight : Tight bins)
    (hjobs : ∀ job ∈ jobs, weight job = 0 ∧ contents job ≠ []) :
    busy (schedule weight contents bins jobs) =
      min bins.length (busy bins + min 1 jobs.length) := by
  cases jobs with
  | nil =>
    have hle := busy_le bins
    show busy bins = min bins.length (busy bins + min 1 0)
    omega
  | cons job jobs =>
    obtain ⟨⟨hweight, hcontents⟩, hrest⟩ := List.forall_mem_cons.mp hjobs
    obtain ⟨before, b, after, rfl, hfirst⟩ := exists_first h
    have hheld : b.held ++ contents job ≠ [] := by simp [hcontents]
    show busy (schedule weight contents (assign weight contents _ job) jobs) = _
    have hopened : First before ⟨b.load, b.held ++ contents job⟩ after :=
      ⟨hfirst.before, hfirst.after⟩
    have hweightless : ∀ job ∈ jobs, weight job = 0 := fun job hjob => (hrest job hjob).1
    have hrun := @busy_weightless α β weight contents _ _ _ _ hopened hheld hweightless
    rw [assign_first hfirst, hweight, Int.add_zero, hrun]
    have hbefore := busy_le before
    have hafter := busy_le after
    simp only [busy_append, busy_cons, if_neg hheld, List.length_append, List.length_cons]
    by_cases hempty : b.held = []
    · simp only [if_pos hempty]
      omega
    · have hb := htight b (List.mem_append_right _ List.mem_cons_self)
      have hpositive := hb.2.mp hempty
      have hall : ∀ c ∈ before ++ b :: after, c.held ≠ [] := by
        intro c hc
        apply (htight c hc).2.mpr
        have := hfirst.le hc
        omega
      have hfull := busy_eq_length.mpr hall
      simp only [busy_append, busy_cons, if_neg hempty, List.length_append,
        List.length_cons] at hfull ⊢
      omega

/-- Jobs in descending order: first those that weigh something, then the others. -/
theorem exists_split (hsorted : jobs.Pairwise fun a b => weight b ≤ weight a)
    (hnonneg : ∀ job ∈ jobs, 0 ≤ weight job) :
    ∃ heavy light, jobs = heavy ++ light ∧ (∀ job ∈ heavy, 0 < weight job) ∧
      (∀ job ∈ light, weight job = 0) := by
  induction jobs with
  | nil => exact ⟨[], [], rfl, fun _ h => absurd h List.not_mem_nil,
      fun _ h => absurd h List.not_mem_nil⟩
  | cons job jobs ih =>
    obtain ⟨hle, hrest⟩ := List.pairwise_cons.mp hsorted
    obtain ⟨hjob, hothers⟩ := List.forall_mem_cons.mp hnonneg
    by_cases hpositive : 0 < weight job
    · obtain ⟨heavy, light, rfl, hheavy, hlight⟩ := ih hrest hothers
      exact ⟨job :: heavy, light, rfl, List.forall_mem_cons.mpr ⟨hpositive, hheavy⟩, hlight⟩
    · refine ⟨[], job :: jobs, rfl, fun _ h => absurd h List.not_mem_nil, ?_⟩
      intro other hother
      have hnonnegOther := hnonneg other hother
      rcases List.mem_cons.mp hother with rfl | hother
      · omega
      · have := hle other hother
        omega

/-- Every one of the bins gets a job exactly when all but one can get a job that weighs
something: jobs that weigh nothing share one bin. -/
theorem all_held_iff {n : ℕ} (hn : 0 < n) (hle : n ≤ jobs.length)
    (hsorted : jobs.Pairwise fun a b => weight b ≤ weight a)
    (hnonneg : ∀ job ∈ jobs, 0 ≤ weight job) (hcontents : ∀ job ∈ jobs, contents job ≠ []) :
    (∀ b ∈ schedule weight contents (List.replicate n ⟨0, []⟩) jobs, b.held ≠ []) ↔
      n ≤ 1 + jobs.countP fun job => 0 < weight job := by
  obtain ⟨heavy, light, rfl, hheavy, hlight⟩ := exists_split hsorted hnonneg
  have hempty : Tight (List.replicate n ⟨0, []⟩ : List (Bin β)) := by
    intro b hb
    rw [List.eq_of_mem_replicate hb]
    simp
  have hbusy : busy (List.replicate n ⟨0, []⟩ : List (Bin β)) = 0 := by
    apply List.countP_eq_zero.mpr
    intro b hb
    rw [List.eq_of_mem_replicate hb]
    exact Bool.false_ne_true
  obtain ⟨htight, hheavyBusy⟩ := tight_schedule (bins_ne_nil hn) hempty fun job hjob =>
    ⟨hheavy job hjob, hcontents job (List.mem_append_left _ hjob)⟩
  have hne : schedule weight contents (List.replicate n ⟨0, []⟩) heavy ≠ [] := by
    rw [← List.length_pos_iff, length_schedule, List.length_replicate]
    exact hn
  have hlast := busy_then_weightless hne htight fun job hjob =>
    ⟨hlight job hjob, hcontents job (List.mem_append_right _ hjob)⟩
  have hjoin : schedule weight contents (List.replicate n ⟨0, []⟩) (heavy ++ light) =
      schedule weight contents (schedule weight contents (List.replicate n ⟨0, []⟩) heavy) light :=
    List.foldl_append
  have hcount : (heavy ++ light).countP (fun job => 0 < weight job) = heavy.length := by
    rw [List.countP_append,
      List.countP_eq_length.mpr fun job hjob => decide_eq_true (hheavy job hjob),
      List.countP_eq_zero.mpr, Nat.add_zero]
    intro job hjob
    simp [hlight job hjob]
  rw [← busy_eq_length, hjoin, hlast, hheavyBusy, hbusy, hcount]
  simp only [length_schedule, List.length_replicate, List.length_append] at hle ⊢
  omega

end
end ListScheduling
