import QaRunner.Api.RunCleanup

/-! However cleanups, locks and deletions of runs interleave, a cleanup touches the files of a run
only under a claim that is its own, and never those of a locked run. -/
namespace QaRunner.RunCleanup
open Guarded Interleaving Accounts

/-- A condition on a row that the claim of a cleanup makes true, and that holds of no free row. -/
structure Mark (mark : RunRow → Bool) : Prop where
  free : ∀ row : RunRow, row.cleanupClaimed = false → mark row = false
  claimed : ∀ row : RunRow, row.run.locked = false → mark row.setClaimed = true
  same : ∀ row row' : RunRow, row'.cleanupClaimed = row.cleanupClaimed →
    row'.run.locked = row.run.locked → mark row' = mark row

theorem mark_claimed : Mark (·.cleanupClaimed) where
  free _ h := h
  claimed _ _ := rfl
  same _ _ h _ := h

/-- Claimed, and not locked. -/
def RunRow.held (row : RunRow) : Bool := row.cleanupClaimed && !row.run.locked

theorem held_eq_true {row : RunRow} :
    row.held = true ↔ row.cleanupClaimed = true ∧ row.run.locked = false := by
  simp [RunRow.held]

theorem mark_held : Mark RunRow.held where
  free row h := by simp [RunRow.held, h]
  claimed row h := by simp [RunRow.held, RunRow.setClaimed, h]
  same row row' hclaimed hlocked := by simp [RunRow.held, hclaimed, hlocked]

def Present (runId : String) (s : Host) : Prop := (s.runs.get runId).isSome = true

instance (runId : String) : DecidablePred (Present runId) :=
  fun s => inferInstanceAs (Decidable ((s.runs.get runId).isSome = true))

/-- A run, as what a cleanup claims. -/
def claim (mark : RunRow → Bool) (runId : String) : Resource Host where
  present := Present runId
  claimed s := (s.runs.get runId).map mark = some true

/-- The step changes the files of a run. -/
def Touches (runId : String) (s s' : Host) : Prop := s'.artifacts runId ≠ s.artifacts runId

section
variable {α : Type} {mark : RunRow → Bool} {runs : Runs} {id runId cutoffIso : String}
  {work : Host → Host → Prop} {held : Bool} {artifacts : String → Option (List String)}

/-- An update that leaves the mark of each row it changes. -/
theorem map_update {p : RunRow → Bool} {f : RunRow → RunRow} (hf : ∀ row, (f row).id = row.id)
    (h : ∀ row, row.id = runId → p row = true → mark (f row) = mark row) :
    ((runs.update p f hf).get runId).map mark = (runs.get runId).map mark := by
  rw [KeyedTable.get_update]
  cases hrow : runs.get runId with
  | none => rfl
  | some row =>
    simp only [Option.map_some]
    split
    · next hp => rw [h row (KeyedTable.key_of_get hrow) hp]
    · rfl

/-- An update of another row. -/
theorem map_update_other {p : RunRow → Bool} {f : RunRow → RunRow}
    (hf : ∀ row, (f row).id = row.id) (hid : id ≠ runId) :
    ((runs.update (fun row => decide (row.id = id) && p row) f hf).get runId).map mark =
      (runs.get runId).map mark := by
  refine map_update hf fun row hrow hp => ?_
  simp only [Bool.and_eq_true, decide_eq_true_eq] at hp
  exact absurd (hp.1.symm.trans hrow) hid

theorem map_lockRun (hmark : Mark mark) (locked : Bool) :
    ((runs.lockRun id locked).2.get runId).map mark = (runs.get runId).map mark := by
  refine map_update (fun _ => RunRow.setLocked_id) fun row _ hp => ?_
  simp only [Bool.and_eq_true, Bool.not_eq_true'] at hp
  have hfree : row.cleanupClaimed = false := hp.2
  rw [hmark.free row hfree, hmark.free (row.setLocked locked) hfree]

/-- What a claim answers is whether it has changed the row. -/
theorem claimRunCleanup_answer : (runs.claimRunCleanup runId cutoffIso).1 =
    (runs.get runId).any (RunRow.cleanable cutoffIso) := by
  simp only [Runs.claimRunCleanup, KeyedTable.rowcount_key]
  cases (runs.get runId).any (RunRow.cleanable cutoffIso) <;> simp

theorem get_claimRunCleanup : (runs.claimRunCleanup runId cutoffIso).2.get runId =
    (runs.get runId).map fun row => if row.cleanable cutoffIso then row.setClaimed else row := by
  rw [Runs.claimRunCleanup, KeyedTable.get_update]
  cases hrow : runs.get runId with
  | none => rfl
  | some row => simp [KeyedTable.key_of_get hrow]

theorem cleanable_free {row : RunRow} (h : row.cleanable cutoffIso = true) :
    row.run.locked = false ∧ row.cleanupClaimed = false := by
  simp only [RunRow.cleanable, Bool.and_eq_true, Bool.not_eq_true'] at h
  exact ⟨h.1.1.2, h.1.2⟩

theorem claim_moves (hmark : Mark mark) (id : String) :
    (claim mark runId).Moves false ((runs.claimRunCleanup id cutoffIso).1 && decide (id = runId))
      ⟨runs, artifacts⟩ ⟨(runs.claimRunCleanup id cutoffIso).2, artifacts⟩ := by
  by_cases hid : id = runId
  · subst hid
    rw [claimRunCleanup_answer, decide_eq_true rfl, Bool.and_true]
    cases hrow : runs.get id with
    | none =>
      refine .stay ?_
      simp only [claim, get_claimRunCleanup, hrow, Option.map_none]
    | some row =>
      rw [Option.any_some]
      cases hclean : row.cleanable cutoffIso with
      | true =>
        obtain ⟨hlocked, hfree⟩ := cleanable_free hclean
        refine .claim ?_ ?_
        · simp [claim, hrow, hmark.free row hfree]
        · simp only [claim, get_claimRunCleanup, hrow, Option.map_some, if_pos hclean,
            hmark.claimed row hlocked]
      | false =>
        refine .stay ?_
        simp [claim, get_claimRunCleanup, hrow, hclean]
  · rw [decide_eq_false hid, Bool.and_false]
    refine .stay ?_
    show _ = some true ↔ _ = some true
    have hsame : ((runs.claimRunCleanup id cutoffIso).2.get runId).map mark =
        (runs.get runId).map mark := map_update_other (fun _ => RunRow.setClaimed_id) hid
    rw [hsame]

theorem finish_moves (hmark : Mark mark) (id : String) (cleaned : Bool) :
    (claim mark runId).Moves (decide (id = runId)) false
      ⟨runs, artifacts⟩ ⟨runs.finishRunCleanup id cleaned, artifacts⟩ := by
  by_cases hid : id = runId
  · subst hid
    rw [decide_eq_true rfl]
    refine .release ?_
    show ¬ _ = some true
    rw [Runs.finishRunCleanup, KeyedTable.get_update]
    cases hrow : runs.get id with
    | none => simp
    | some row =>
      simp only [Option.map_some, Option.some.injEq]
      split
      · rw [hmark.free _ rfl]
        simp
      · next hp =>
        have hfree : row.cleanupClaimed = false := by
          simpa [KeyedTable.key_of_get hrow] using hp
        rw [hmark.free row hfree]
        simp
  · rw [decide_eq_false hid]
    refine .stay ?_
    show _ = some true ↔ _ = some true
    have hsame : ((runs.finishRunCleanup id cleaned).get runId).map mark =
        (runs.get runId).map mark := map_update_other (fun _ => RunRow.setCleaned_id) hid
    rw [hsame]

end

/-- The program leaves whether it holds the run as it is. -/
def Steady {α : Type} (mark : RunRow → Bool) (runId : String) (work : Host → Host → Prop)
    (held : Bool) (p : Handler α) : Prop :=
  (claim mark runId).Disciplined work (fun held' _ => held' = held) held p

/-- Such a program that does not fail. -/
def Sure {α : Type} (mark : RunRow → Bool) (runId : String) (work : Host → Host → Prop)
    (held : Bool) (p : Handler α) : Prop :=
  (claim mark runId).Disciplined work (fun held' result => held' = held ∧ ∃ a, result = .ok a)
    held p

section
variable {α β : Type} {mark : RunRow → Bool} {id runId cutoffIso : String} {removal : Removal}
  {work : Host → Host → Prop} {held : Bool}

theorem Steady.bind {Q : Bool → Except ApiError β → Prop} {p : Handler α} {f : α → Handler β}
    (hp : Steady mark runId work held p)
    (hf : ∀ a, (claim mark runId).Disciplined work Q held (f a))
    (herror : ∀ e, Q held (.error e)) : (claim mark runId).Disciplined work Q held (p >>= f) := by
  apply Resource.Disciplined.bind hp
  · rintro _ a rfl
    exact hf a
  · rintro _ e rfl
    exact herror e

theorem Sure.bind {Q : Bool → Except ApiError β → Prop} {p : Handler α} {f : α → Handler β}
    (hp : Sure mark runId work held p)
    (hf : ∀ a, (claim mark runId).Disciplined work Q held (f a)) :
    (claim mark runId).Disciplined work Q held (p >>= f) := by
  apply Resource.Disciplined.bind hp
  · rintro _ a ⟨rfl, -⟩
    exact hf a
  · rintro _ e ⟨-, a, ha⟩
    cases ha

theorem Sure.steady {p : Handler α} (hp : Sure mark runId work held p) :
    Steady mark runId work held p := hp.mono fun _ _ h => h.1

theorem sure_pure (a : α) : Sure mark runId work held (pure a) := .done ⟨rfl, a, rfl⟩

theorem steady_lift (x : Except ApiError α) : Steady mark runId work held (Prog.lift x) := .done rfl

variable (hwork : ∀ s s', work s s' → Touches runId s s')
include hwork

theorem steady_read (look : Host → Except ApiError α) :
    Steady mark runId work held (Prog.read look) :=
  Resource.disciplined_read (fun s h => hwork s s h rfl) fun _ => rfl

theorem steady_writeRuns {f : Runs → α × Runs}
    (h : ∀ runs, ((f runs).2.get runId).isSome = true →
      ((f runs).2.get runId).map mark = (runs.get runId).map mark) :
    Steady mark runId work held (writeRuns f) := by
  refine Resource.disciplined_call (fun _ => held) (fun s _ hs' => .stay ?_)
    (fun s hs => (hwork _ _ hs rfl).elim) fun _ => rfl
  show ((f s.runs).2.get runId).map mark = some true ↔ (s.runs.get runId).map mark = some true
  rw [h s.runs hs']

theorem sure_writeArtifacts {files : Option (List String)}
    (h : id = runId → held = true ∨ ∀ s s', ¬ work s s') :
    Sure mark runId work held (writeArtifacts id files) := by
  refine Resource.disciplined_call (fun _ => held) (fun s _ _ => .stay Iff.rfl) (fun s hs => ?_)
    fun _ => ⟨rfl, (), rfl⟩
  by_cases hid : id = runId
  · rcases h hid with hheld | hnone
    · exact hheld
    · exact absurd hs (hnone _ _)
  · have hsame : Function.update s.artifacts id files runId = s.artifacts runId :=
      Function.update_of_ne (Ne.symm hid) _ _
    exact absurd hsame (hwork _ _ hs)

theorem sure_rmtree (h : id = runId → held = true ∨ ∀ s s', ¬ work s s') :
    Sure mark runId work held (rmtree id removal) := by
  have hfiles : ∀ left, Sure mark runId work held (removeFiles id left) := by
    intro left
    induction left with
    | nil => exact sure_pure ()
    | cons files left ih => exact (sure_writeArtifacts hwork h).bind fun _ => ih
  refine (hfiles removal.left).bind fun _ => ?_
  cases removal.ending with
  | removed => exact (sure_writeArtifacts hwork h).bind fun _ => sure_pure _
  | osError => exact sure_pure _
  | raised => exact sure_pure _

/-- A cleanup that holds the run has released it at its end. -/
theorem finishCleanup_releases (hmark : Mark mark) (ending : RemovalEnd) :
    (claim mark runId).Disciplined work (fun held' _ => held' = false) (decide (id = runId))
      (finishCleanup id ending) := by
  have hcall : (claim mark runId).Disciplined work (fun held' _ => held' = false)
      (decide (id = runId))
      (writeRuns fun runs => ((), runs.finishRunCleanup id (ending = .removed))) :=
    Resource.disciplined_call (fun _ => false) (fun s _ _ => finish_moves hmark id _)
      (fun s hs => (hwork _ _ hs rfl).elim) fun _ => rfl
  apply hcall.bind
  · rintro _ _ rfl
    cases ending with
    | removed => exact .done rfl
    | osError => exact .done rfl
    | raised => exact .done rfl
  · rintro _ _ rfl
    rfl

theorem cleanClaimed_releases (hmark : Mark mark) (claimed : Bool) :
    (claim mark runId).Disciplined work (fun held' _ => held' = false)
      (claimed && decide (id = runId)) (cleanClaimed id removal claimed) := by
  cases claimed with
  | false => exact .done rfl
  | true =>
    rw [Bool.true_and]
    exact (sure_rmtree hwork fun hid => Or.inl (decide_eq_true hid)).bind fun ending =>
      finishCleanup_releases hwork hmark ending

theorem cleanExisting_steady (hmark : Mark mark) (present : Bool) :
    Steady mark runId work false (cleanExisting id cutoffIso removal present) := by
  cases present with
  | false => exact .done rfl
  | true =>
    have hcall : (claim mark runId).Disciplined work
        (fun held result => ∃ claimed, result = .ok claimed ∧
          held = (claimed && decide (id = runId)))
        false (writeRuns (·.claimRunCleanup id cutoffIso)) :=
      Resource.disciplined_call
        (fun s => (s.runs.claimRunCleanup id cutoffIso).1 && decide (id = runId))
        (fun s _ _ => claim_moves hmark id) (fun s hs => (hwork _ _ hs rfl).elim)
        fun s => ⟨_, rfl, rfl⟩
    apply hcall.bind
    · rintro _ _ ⟨claimed, hresult, rfl⟩
      cases hresult
      exact cleanClaimed_releases hwork hmark _
    · rintro _ _ ⟨claimed, hresult, -⟩
      cases hresult

theorem cleanRun_steady (hmark : Mark mark) (safe : String → Bool) :
    Steady mark runId work false (cleanRun safe id cutoffIso removal) := by
  unfold cleanRun
  cases safe id with
  | false => exact .done rfl
  | true =>
    exact (steady_read hwork _).bind (fun present => cleanExisting_steady hwork hmark present)
      fun _ => rfl

theorem cleanRuns_steady (hmark : Mark mark) (safe : String → Bool) (cutoffIso : String → String)
    (removal : String → Removal) (listed : List Core.Run) :
    Steady mark runId work false (cleanRuns safe cutoffIso removal listed) := by
  induction listed with
  | nil => exact .done rfl
  | cons run listed ih =>
    exact (cleanRun_steady hwork hmark safe).bind
      (fun _ => ih.bind (fun _ => .done rfl) fun _ => rfl) fun _ => rfl

theorem removeDir_steady (hnone : ∀ s s', ¬ work s s') (safe : String → Bool) :
    Steady mark runId work held (removeDir safe id removal) := by
  unfold removeDir
  cases safe id with
  | false => exact .done rfl
  | true =>
    refine (steady_read hwork _).bind (fun present => ?_) fun _ => rfl
    cases present with
    | false => exact .done rfl
    | true => exact (sure_rmtree hwork fun _ => Or.inr hnone).steady

end

/-- What counts as work on the run: for a cleanup, to touch its files. -/
def Request.Works (runId : String) : Request → Host → Host → Prop
  | .cleanupRuns .. => Touches runId
  | _ => fun _ _ => False

variable {mark : RunRow → Bool} {runId : String}

/-- Every request keeps to the claim of every run. -/
theorem handler_steady (hmark : Mark mark) (safe : String → Bool) (request : Request) :
    Steady mark runId (request.Works runId) false (request.handler safe) := by
  cases request with
  | lockRun id locked user =>
    have hwork : ∀ s s', (Request.lockRun id locked user).Works runId s s' → Touches runId s s' :=
      fun _ _ h => h.elim
    exact (steady_read hwork _).bind (fun _ =>
      (steady_writeRuns hwork fun _ _ => map_lockRun hmark locked).bind (fun _ =>
        (steady_lift _).bind (fun _ =>
          (steady_read hwork _).bind (fun _ => .done rfl) fun _ => rfl) fun _ => rfl)
        fun _ => rfl) fun _ => rfl
  | deleteRun id user removal =>
    have hwork : ∀ s s', (Request.deleteRun id user removal).Works runId s s' →
        Touches runId s s' := fun _ _ h => h.elim
    have hdelete : ∀ runs : Runs, ((runs.deleteRun id).get runId).isSome = true →
        ((runs.deleteRun id).get runId).map mark = (runs.get runId).map mark := by
      intro runs hpresent
      rw [Runs.deleteRun, KeyedTable.get_delete] at hpresent ⊢
      cases hrow : runs.get runId with
      | none => rfl
      | some row =>
        rw [hrow, Option.filter_some] at hpresent
        rw [Option.filter_some]
        split at hpresent
        · next h => rw [if_pos h]
        · cases hpresent
    exact (steady_read hwork _).bind (fun _ =>
      (removeDir_steady hwork (fun _ _ h => h) safe).bind (fun _ =>
        (steady_lift _).bind (fun _ =>
          (steady_writeRuns hwork hdelete).bind (fun _ => .done rfl) fun _ => rfl) fun _ => rfl)
        fun _ => rfl) fun _ => rfl
  | cleanupRuns listedIso cutoffIso removal =>
    have hwork : ∀ s s', (Request.cleanupRuns listedIso cutoffIso removal).Works runId s s' →
        Touches runId s s' := fun _ _ h => h
    exact (steady_read hwork _).bind (fun listed =>
      (cleanRuns_steady hwork hmark safe cutoffIso removal listed).bind (fun _ => .done rfl)
        fun _ => rfl) fun _ => rfl

/-- What happens beside the requests leaves the lock and the claim of the rows that stay. Executions
save their runs, and the files of any run may change. -/
def Others (s s' : Host) : Prop := ∀ runId row row', s.runs.get runId = some row →
  s'.runs.get runId = some row' →
    row'.cleanupClaimed = row.cleanupClaimed ∧ row'.run.locked = row.run.locked

theorem others_save {s : Host} {run : Core.Run} : Others s (s.setRuns (s.runs.save run)) := by
  intro runId row row' hrow hrow'
  by_cases hid : runId = run.id
  · subst hid
    have hsaved : (s.runs.save run).get run.id = some (row.mergeExcluded run) := by
      have hself := KeyedTable.get_upsert_self (t := s.runs) (a := { run := run })
        fun b => (RunRow.mergeExcluded_id : (b.mergeExcluded run).id = b.id)
      have hid : ({ run := run } : RunRow).id = run.id := rfl
      rw [hid, hrow] at hself
      exact hself
    cases hsaved.symm.trans hrow'
    exact ⟨rfl, rfl⟩
  · have hkept : (s.runs.save run).get runId = s.runs.get runId :=
      KeyedTable.get_upsert_of_ne _ hid
    cases (hkept.trans hrow).symm.trans hrow'
    exact ⟨rfl, rfl⟩

variable {ι : Type} [DecidableEq ι] {safe : String → Bool} {requests : ι → Request} {s : Host}
  {c : Config ι Host ApiError Reply} {events : List (Event ι Host)}

/-- Requests as they arrive. -/
def Arrived (safe : String → Bool) (requests : ι → Request) (s : Host) :
    Config ι Host ApiError Reply where
  store := s
  progs i := (requests i).handler safe

theorem others_same (hmark : Mark mark) {t t' : Host} (h : Others t t') (hpresent : Present runId t)
    (hpresent' : Present runId t') :
    (claim mark runId).claimed t' ↔ (claim mark runId).claimed t := by
  obtain ⟨row, hrow⟩ := Option.isSome_iff_exists.mp hpresent
  obtain ⟨row', hrow'⟩ := Option.isSome_iff_exists.mp hpresent'
  obtain ⟨hclaimed, hlocked⟩ := h runId row row' hrow hrow'
  simp only [claim, hrow, hrow', Option.map_some, hmark.same row row' hclaimed hlocked]

omit [DecidableEq ι] in
theorem exclusive_arrived (hmark : Mark mark) :
    (claim mark runId).Exclusive (fun i => (requests i).Works runId) (fun _ => false)
      (Arrived safe requests s) where
  disciplined i := (handler_steady hmark safe (requests i)).mono fun _ _ _ => trivial
  alone _ _ hi := absurd hi Bool.false_ne_true
  claimed _ hi := absurd hi Bool.false_ne_true

/-- A run that ended long ago. -/
def nightlyRun : Core.Run where
  id := "nightly"
  status := .completed
  runner := "pytest"
  createdBy := "ada"
  testsPath := "tests"
  createdAt := ⟨0, some 0⟩
  finishedAt := some ⟨0, some 0⟩

def nightlyHost : Host where
  runs := ⟨[{ run := nightlyRun }], by decide⟩
  artifacts := fun _ => some ["report.html"]

/-- A request to lock the run, a cleanup that fails half-way, and one that goes through. -/
def nightlyRequests : ℕ → Request
  | 0 => .lockRun "nightly" true ⟨"ada", .user, "2026-01-02"⟩
  | 1 => .cleanupRuns "2026-01-01" (fun _ => "2026-01-01") fun _ => ⟨[[]], .osError⟩
  | _ => .cleanupRuns "2026-01-01" (fun _ => "2026-01-01") fun _ => ⟨[], .removed⟩

def nightly : Config ℕ Host ApiError Reply := Arrived (fun _ => true) nightlyRequests nightlyHost

/-- A step that is work on a run, as long as its row is there, finds the run claimed. -/
theorem claimed_at_work (hmark : Mark mark)
    (hrun : Interleaving.Run Others (Arrived safe requests s) events c) (hstart : Present runId s)
    (hpresent : ∀ e ∈ events, Present runId e.after) {e : Event ι Host} (he : e ∈ events) {i : ι}
    (hactor : e.actor = some i) (hwork : (requests i).Works runId e.before e.after) :
    ∃ row, e.before.runs.get runId = some row ∧ mark row = true :=
  Option.map_eq_some_iff.mp ((Resource.Exclusive.run hrun (exclusive_arrived hmark)
    (fun _ _ h => others_same hmark h) hstart hpresent).2 e he i hactor hwork)

/-- However requests interleave, the step of a cleanup that changes the files of a run finds the run
claimed and not locked, as long as its row is there. -/
theorem cleanup_spares_locked (hrun : Interleaving.Run Others (Arrived safe requests s) events c)
    (hstart : Present runId s) (hpresent : ∀ e ∈ events, Present runId e.after)
    {e : Event ι Host} (he : e ∈ events) {i : ι} (hactor : e.actor = some i)
    (hwork : (requests i).Works runId e.before e.after) :
    ∃ row, e.before.runs.get runId = some row ∧ row.cleanupClaimed = true ∧
      row.run.locked = false := by
  obtain ⟨row, hrow, hheld⟩ := claimed_at_work mark_held hrun hstart hpresent he hactor hwork
  exact ⟨row, hrow, held_eq_true.mp hheld⟩

theorem cleanup_spares_locked_nightly : ∃ row,
    (play [1, 1, 1] nightly).2.store.runs.get "nightly" = some row ∧ row.cleanupClaimed = true ∧
      row.run.locked = false := by
  have hwork : (nightlyRequests 1).Works "nightly" (play [1, 1, 1] nightly).2.store
      (play [1, 1, 1, 1] nightly).2.store := by
    intro hsame
    cases (congrArg (Option.map List.length) hsame : some 0 = some 1)
  exact cleanup_spares_locked
    (e := ⟨some 1, (play [1, 1, 1] nightly).2.store, (play [1, 1, 1, 1] nightly).2.store⟩)
    (run_play Others [1, 1, 1, 1] nightly) (rfl : Present "nightly" nightlyHost) (by decide)
    (List.mem_of_getElem? (i := 3) rfl) rfl hwork

/-- Two cleanups do not work on the files of one run at a time: between their steps there is a time
at which the run is not claimed. -/
theorem cleanups_apart {early mid late : List (Event ι Host)} {e e' : Event ι Host}
    (hrun : Interleaving.Run Others (Arrived safe requests s) (early ++ e :: mid ++ e' :: late) c)
    (hstart : Present runId s)
    (hpresent : ∀ d ∈ early ++ e :: mid ++ e' :: late, Present runId d.after) {i j : ι}
    (hi : e.actor = some i) (hiwork : (requests i).Works runId e.before e.after)
    (hj : e'.actor = some j) (hjwork : (requests j).Works runId e'.before e'.after) (hne : i ≠ j) :
    ∃ d ∈ e :: mid, ∃ row, d.after.runs.get runId = some row ∧ row.cleanupClaimed = false := by
  obtain ⟨d, hd, hfree⟩ := (exclusive_arrived mark_claimed).apart hrun
    (fun _ _ h => others_same mark_claimed h) hstart hpresent hi hiwork hj hjwork hne
  obtain ⟨row, hrow⟩ := Option.isSome_iff_exists.mp
    (hpresent d (List.mem_append_left _ (List.mem_append_right _ hd)))
  refine ⟨d, hd, row, hrow, ?_⟩
  simpa [claim, hrow] using hfree

/-- The state after the first cleanup has touched the files. -/
def nightlyHalf : Config ℕ Host ApiError Reply := (play [1, 1, 1, 1] nightly).2

theorem cleanups_apart_nightly :
    ∃ d ∈ ⟨some 1, (play [1, 1, 1] nightly).2.store, nightlyHalf.store⟩ ::
        (play [1, 2, 2, 2] nightlyHalf).1,
      ∃ row, d.after.runs.get "nightly" = some row ∧ row.cleanupClaimed = false := by
  have hiwork : (nightlyRequests 1).Works "nightly" (play [1, 1, 1] nightly).2.store
      nightlyHalf.store := by
    intro hsame
    cases (congrArg (Option.map List.length) hsame : some 0 = some 1)
  have hjwork : (nightlyRequests 2).Works "nightly" (play [1, 2, 2, 2] nightlyHalf).2.store
      (play [1, 2, 2, 2, 2] nightlyHalf).2.store := by
    intro hsame
    cases (congrArg Option.isSome hsame : false = true)
  have hrun : Interleaving.Run Others nightly ((play [1, 1, 1] nightly).1 ++
      ⟨some 1, (play [1, 1, 1] nightly).2.store, nightlyHalf.store⟩ ::
        (play [1, 2, 2, 2] nightlyHalf).1 ++
      ⟨some 2, (play [1, 2, 2, 2] nightlyHalf).2.store,
        (play [1, 2, 2, 2, 2] nightlyHalf).2.store⟩ :: []) (play [1, 2, 2, 2, 2] nightlyHalf).2 :=
    run_play Others [1, 1, 1, 1, 1, 2, 2, 2, 2] nightly
  exact cleanups_apart hrun rfl (by decide) rfl hiwork rfl hjwork (by decide)

def Locked (runId : String) (s : Host) : Prop :=
  ∃ row, s.runs.get runId = some row ∧ row.run.locked = true

/-- A locked run stays locked, as long as its row is there. -/
def LockKept (runId : String) (s s' : Host) : Prop := ∀ row row', s.runs.get runId = some row →
  s'.runs.get runId = some row' → row.run.locked = true → row'.run.locked = true

theorem lockKept_refl (s : Host) : LockKept runId s s := by
  intro row row' hrow hrow' hlocked
  cases hrow.symm.trans hrow'
  exact hlocked

theorem lockKept_update {t : Host} {p : RunRow → Bool} {f : RunRow → RunRow}
    (hf : ∀ row, (f row).id = row.id)
    (h : ∀ row, row.id = runId → p row = true → row.run.locked = true →
      (f row).run.locked = true) :
    LockKept runId t (t.setRuns (t.runs.update p f hf)) := by
  intro row row' hrow hrow' hlocked
  have hget : (t.runs.update p f hf).get runId = some row' := hrow'
  rw [KeyedTable.get_update, hrow, Option.map_some, Option.some.injEq] at hget
  subst hget
  split
  · next hp => exact h row (KeyedTable.key_of_get hrow) hp hlocked
  · exact hlocked

section
variable {α : Type} {id cutoffIso : String} {removal : Removal}

theorem always_writeRuns {f : Runs → α × Runs}
    (h : ∀ t : Host, LockKept runId t (t.setRuns (f t.runs).2)) :
    Prog.Always (LockKept runId) (writeRuns f) := .step h fun _ => .done _

theorem lockKept_claim {t : Host} :
    LockKept runId t (t.setRuns (t.runs.claimRunCleanup id cutoffIso).2) :=
  lockKept_update (fun _ => RunRow.setClaimed_id) fun _ _ _ h => h

theorem lockKept_finish {t : Host} {cleaned : Bool} :
    LockKept runId t (t.setRuns (t.runs.finishRunCleanup id cleaned)) :=
  lockKept_update (fun _ => RunRow.setCleaned_id) fun _ _ _ h => h

theorem always_writeArtifacts {files : Option (List String)} :
    Prog.Always (LockKept runId) (writeArtifacts id files) :=
  .step (fun t => lockKept_refl t) fun _ => .done _

theorem always_rmtree : Prog.Always (LockKept runId) (rmtree id removal) := by
  have hfiles : ∀ left, Prog.Always (LockKept runId) (removeFiles id left) := by
    intro left
    induction left with
    | nil => exact .done _
    | cons files left ih => exact always_writeArtifacts.bind fun _ => ih
  refine (hfiles removal.left).bind fun _ => ?_
  cases removal.ending with
  | removed => exact always_writeArtifacts.bind fun _ => .done _
  | osError => exact .done _
  | raised => exact .done _

theorem always_cleanRun : Prog.Always (LockKept runId) (cleanRun safe id cutoffIso removal) := by
  unfold cleanRun
  cases safe id with
  | false => exact .done _
  | true =>
    refine (Prog.always_read lockKept_refl _).bind fun present => ?_
    cases present with
    | false => exact .done _
    | true =>
      refine (always_writeRuns fun t => lockKept_claim).bind fun claimed => ?_
      cases claimed with
      | false => exact .done _
      | true =>
        refine always_rmtree.bind fun ending => ?_
        refine (always_writeRuns fun t => lockKept_finish).bind fun _ => ?_
        cases ending with
        | removed => exact .done _
        | osError => exact .done _
        | raised => exact .done _

theorem always_cleanRuns (cutoffIso : String → String) (removal : String → Removal)
    (listed : List Core.Run) :
    Prog.Always (LockKept runId) (cleanRuns safe cutoffIso removal listed) := by
  induction listed with
  | nil => exact .done _
  | cons run listed ih => exact always_cleanRun.bind fun _ => ih.bind fun _ => .done _

theorem lockKept_deleteRun (t : Host) : LockKept runId t (t.setRuns (t.runs.deleteRun id)) := by
  intro row row' hrow hrow' hlocked
  have hget : (t.runs.deleteRun id).get runId = some row' := hrow'
  rw [Runs.deleteRun, KeyedTable.get_delete, hrow, Option.filter_some] at hget
  split at hget
  · cases hget
    exact hlocked
  · cases hget

theorem always_removeDir : Prog.Always (LockKept runId) (removeDir safe id removal) := by
  unfold removeDir
  cases safe id with
  | false => exact .done _
  | true =>
    refine (Prog.always_read lockKept_refl _).bind fun present => ?_
    cases present with
    | false => exact .done _
    | true => exact always_rmtree

end

/-- A request to unlock the run. -/
def Request.Unlocks (runId : String) : Request → Prop
  | .lockRun id locked _ => id = runId ∧ locked = false
  | _ => False

/-- Only a request to unlock a run takes its lock. -/
theorem handler_lockKept {request : Request} (h : ¬ request.Unlocks runId) :
    Prog.Always (LockKept runId) (request.handler safe) := by
  cases request with
  | lockRun id locked user =>
    refine (Prog.always_read lockKept_refl _).bind fun _ => ?_
    have hwrite : ∀ t : Host, LockKept runId t (t.setRuns (t.runs.lockRun id locked).2) := by
      intro t
      refine lockKept_update (fun _ => RunRow.setLocked_id) fun row hid hp _ => ?_
      simp only [Bool.and_eq_true, decide_eq_true_eq] at hp
      cases locked with
      | true => rfl
      | false => exact absurd ⟨hp.1.symm.trans hid, rfl⟩ h
    exact (always_writeRuns hwrite).bind fun _ =>
      (.done _ : Prog.Always (LockKept runId) (Prog.lift _)).bind fun _ =>
        (Prog.always_read lockKept_refl _).bind fun _ => .done _
  | deleteRun id user removal =>
    exact (Prog.always_read lockKept_refl _).bind fun _ => always_removeDir.bind fun _ =>
      (.done _ : Prog.Always (LockKept runId) (Prog.lift _)).bind fun _ =>
        (always_writeRuns lockKept_deleteRun).bind fun _ => .done _
  | cleanupRuns listedIso cutoffIso removal =>
    exact (Prog.always_read lockKept_refl _).bind fun listed =>
      (always_cleanRuns cutoffIso removal listed).bind fun _ => .done _

/-- A request to lock a run that has succeeded wrote the lock to a run that was not claimed. -/
theorem lockRun_thread {R : Host → Host → Prop} [IsPreorder Host R] {user : User} {reply : Reply}
    {t t' : Host} {steps : List (Host × Host)}
    (h : Thread R (lockRun runId true user) t steps (.done (.ok reply)) t') :
    ∃ u, (u, u.setRuns (u.runs.lockRun runId true).2) ∈ steps ∧
      (u.runs.lockRun runId true).1 = true := by
  obtain ⟨_, first, _, _, rfl, -, hrest⟩ := h.of_bind_ok
  obtain ⟨written, second, _, _, rfl, hwrite, hchecked⟩ := hrest.of_bind_ok
  obtain ⟨_, _, _, _, rfl, hcheck, -⟩ := hchecked.of_bind_ok
  obtain ⟨u, -, -, rfl, hwritten⟩ := hwrite.of_call
  refine ⟨u, List.mem_append_right _ (List.mem_append_left _ List.mem_cons_self), ?_⟩
  cases hwritten
  simpa [raiseIf_eq_ok] using hcheck.of_lift.1

theorem locked_lockRun {runs : Runs} (h : (runs.lockRun runId true).1 = true) :
    ∃ row, (runs.lockRun runId true).2.get runId = some row ∧ row.run.locked = true := by
  rw [Runs.lockRun, KeyedTable.rowcount_key] at h
  rw [Runs.lockRun, KeyedTable.get_update]
  cases hrow : runs.get runId with
  | none => simp [hrow] at h
  | some row =>
    cases hclaimed : row.cleanupClaimed with
    | true => simp [hrow, hclaimed] at h
    | false =>
      refine ⟨row.setLocked true, ?_, rfl⟩
      simp [KeyedTable.key_of_get hrow, hclaimed]

theorem lockKept_others {t t' : Host} (h : Others t t') : LockKept runId t t' := by
  intro row row' hrow hrow' hlocked
  rw [(h runId row row' hrow hrow').2]
  exact hlocked

/-- A request to lock a run that has succeeded locked it at one of its steps. -/
theorem exists_locked {reply : Reply} {user : User} {j : ι}
    (hrun : Interleaving.Run Others (Arrived safe requests s) events c)
    (hlock : requests j = .lockRun runId true user) (hdone : c.progs j = .done (.ok reply)) :
    ∃ d ∈ events, Locked runId d.after := by
  have hthread : Thread (fun _ _ => True) ((requests j).handler safe) s (own j events)
      (c.progs j) c.store := hrun.own_thread j
  rw [hlock, hdone] at hthread
  obtain ⟨u, hu, hanswer⟩ := lockRun_thread hthread
  obtain ⟨d, hd, -, hpair⟩ := mem_own.mp hu
  have hafter : d.after.runs = (u.runs.lockRun runId true).2 := by
    rw [(Prod.mk.inj hpair).2]
    rfl
  refine ⟨d, hd, ?_⟩
  rw [Locked, hafter]
  exact locked_lockRun hanswer

/-- Once a run has been locked no cleanup changes its files, with no request to unlock it and as
long as its row is there: not one that began before, either. -/
theorem locked_run_kept {reply : Reply} {user : User} {events' : List (Event ι Host)}
    {c' : Config ι Host ApiError Reply} {j : ι}
    (hrun : Interleaving.Run Others (Arrived safe requests s) events c)
    (hrun' : Interleaving.Run Others c events' c')
    (hstart : Present runId s) (hpresent : ∀ e ∈ events ++ events', Present runId e.after)
    (hlock : requests j = .lockRun runId true user) (hdone : c.progs j = .done (.ok reply))
    (honly : ∀ i, ¬ (requests i).Unlocks runId) {e : Event ι Host} (he : e ∈ events') {i : ι}
    (hactor : e.actor = some i) : ¬ (requests i).Works runId e.before e.after := by
  intro hwork
  have hall := hrun.append hrun'
  obtain ⟨d, hd, hlocked⟩ := exists_locked hrun hlock hdone
  -- From the step that locked the run on, it stays locked.
  obtain ⟨pre, post, rfl⟩ := List.append_of_mem hd
  obtain ⟨c₁, -, hfrom⟩ := hrun.split
  obtain ⟨-, c₂, hc₂, hpost⟩ := hfrom.uncons
  rw [← hc₂] at hlocked
  have hkept := (hall.always (fun i => handler_lockKept (honly i)) fun _ _ h => lockKept_others h).1
  have hsub : ∀ d' ∈ post ++ events', d' ∈ pre ++ d :: post ++ events' := by
    intro d' hd'
    rcases List.mem_append.mp hd' with hmem | hmem
    · exact List.mem_append_left _ (List.mem_append_right _ (List.mem_cons_of_mem _ hmem))
    · exact List.mem_append_right _ hmem
  have hstep : ∀ d' ∈ post ++ events', Locked runId d'.before → Locked runId d'.after := by
    rintro d' hd' ⟨row, hrow, hrowlocked⟩
    obtain ⟨row', hrow'⟩ := Option.isSome_iff_exists.mp (hpresent d' (hsub d' hd'))
    exact ⟨row', hrow', hkept d' (hsub d' hd') row row' hrow hrow' hrowlocked⟩
  obtain ⟨-, hbefore⟩ := (hpost.append hrun').kept hlocked hstep
  obtain ⟨row, hrow, hrowlocked⟩ := hbefore e (List.mem_append_right _ he)
  obtain ⟨row', hrow', hheld⟩ := claimed_at_work mark_held hall hstart hpresent
    (List.mem_append_right _ he) hactor hwork
  obtain rfl : row' = row := Option.some.inj (hrow'.symm.trans hrow)
  exact absurd ((held_eq_true.mp hheld).2.symm.trans hrowlocked) Bool.false_ne_true

/-- The cleanup has listed the run when the lock comes, and is refused the claim. -/
def nightlyLocked : Config ℕ Host ApiError Reply := (play [1, 0, 0, 0] nightly).2

theorem locked_run_kept_nightly : ¬ (nightlyRequests 1).Works "nightly"
    (play [1] nightlyLocked).2.store (play [1, 1] nightlyLocked).2.store := by
  have honly : ∀ i, ¬ (nightlyRequests i).Unlocks "nightly" := by
    rintro (_ | _ | i) hunlocks
    · exact absurd hunlocks.2 (by decide)
    · exact hunlocks
    · exact hunlocks
  have hdone : nightlyLocked.progs 0 = .done (.ok (.run { nightlyRun with locked := true })) := rfl
  exact locked_run_kept
    (e := ⟨some 1, (play [1] nightlyLocked).2.store, (play [1, 1] nightlyLocked).2.store⟩)
    (run_play Others [1, 0, 0, 0] nightly) (run_play Others [1, 1] nightlyLocked)
    (rfl : Present "nightly" nightlyHost) (by decide) rfl hdone honly
    (List.mem_of_getElem? (i := 1) rfl) rfl

end QaRunner.RunCleanup
