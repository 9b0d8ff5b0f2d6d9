import QaRunner.Api.AccountSafety

/-! Who changes an account, and what a deleted user leaves behind. -/
namespace QaRunner.Accounts
open Guarded Interleaving Handler

section
variable {Token : Type} {app : Container Token} {request : Request Token} {users users' : Users}
  {username : String}

/-- The request is about the account, given the users that it finds. -/
def Request.Concerns (app : Container Token) (username : String) (users : Users) :
    Request Token → Prop
  | .logout now creds => ∃ version, app.tokenSubject now creds.revoked = some (username, version)
  | .createUser _ _ req _ _ => req.username = username
  | .deleteUser _ _ target => target = username
  | .updateUser _ _ target _ _ => target = username
  | .initializeStore .. => users.rows = []
  | _ => False

/-- A changed account is one that the request is about. -/
theorem Request.Effect.concerns (h : request.Effect app users users')
    (hchanged : users'.get username ≠ users.get username) :
    request.Concerns app username users := by
  have hsame : ∀ {target : String}, Users.Keeps target users users' → target = username := by
    intro target hkeeps
    by_contra hother
    exact hchanged (hkeeps.elsewhere username (Ne.symm hother))
  rcases h with rfl | h
  · exact absurd rfl hchanged
  · cases request with
    | login | getMe | listUsers => exact h.elim
    | logout now creds =>
      obtain ⟨target, version, hsubject, rfl⟩ := h
      obtain rfl := hsame Users.keeps_incrementTokenVersion
      exact ⟨version, hsubject⟩
    | createUser =>
      obtain ⟨_, hcreate⟩ := h
      exact hsame (Users.keeps_createUser hcreate)
    | deleteUser =>
      cases h
      exact hsame Users.keeps_deleteUser
    | updateUser =>
      rcases h with ⟨_, -, rfl | rfl⟩ | ⟨-, rfl | ⟨passwordHash, rfl⟩⟩
      · exact hsame (Users.keeps_demoteIfNotLastAdmin _)
      · exact hsame (Users.keeps_updateRole _)
      · exact hsame Users.keeps_incrementTokenVersion
      · exact hsame (Users.keeps_updatePassword passwordHash)
    | initializeStore adminUser _ _ nowStr =>
      obtain ⟨passwordHash, rfl⟩ := h
      rcases Users.seedAdmin_cases users adminUser passwordHash nowStr with
        ⟨hempty, -⟩ | ⟨-, hsame'⟩
      · exact hempty
      · rw [hsame'] at hchanged
        exact absurd rfl hchanged

/-- When and with which credentials a request for administrators is made. -/
def Request.adminOnly : Request Token → Option (ℤ × Credentials Token)
  | .createUser now creds _ _ _ | .listUsers now creds | .deleteUser now creds _ |
    .updateUser now creds _ _ _ => some (now, creds)
  | _ => none

/-- The request would delete the account of the administrator that makes it. -/
def Request.SelfDelete (user : User) : Request Token → Prop
  | .deleteUser _ _ target => target = user.username
  | _ => False

variable {R : ApiStore → ApiStore → Prop} [IsPreorder ApiStore R] {p : Handler (Reply Token)}
  {s s' : ApiStore} {steps : List (ApiStore × ApiStore)} {now : ℤ} {creds : Credentials Token}

/-- A request for administrators looks first whether it is made by one; if it is not, or would
delete its own account, nothing follows. -/
theorem adminOnly_thread (hadmin : request.adminOnly = some (now, creds))
    (h : Thread R (request.handler app) s steps p s') :
    steps = [] ∨ ∃ t rest, steps = (t, t) :: rest ∧ ((∃ user,
      app.currentAdmin now creds t.users = .ok user ∧ ¬ request.SelfDelete user) ∨ rest = []) := by
  cases request with
  | login | logout | getMe | initializeStore => cases hadmin
  | createUser | listUsers | updateUser =>
    cases hadmin
    rcases h.of_read_bind with hnil | ⟨t, rest, rfl, ⟨user, huser, -⟩ | hnil⟩
    · exact Or.inl hnil
    · exact Or.inr ⟨t, rest, rfl, Or.inl ⟨user, huser, id⟩⟩
    · exact Or.inr ⟨t, rest, rfl, Or.inr hnil⟩
  | deleteUser _ _ target =>
    cases hadmin
    rcases h.of_read_bind with hnil | ⟨t, rest, rfl, ⟨user, huser, hrest⟩ | hnil⟩
    · exact Or.inl hnil
    · refine Or.inr ⟨t, rest, rfl, ?_⟩
      by_cases hself : target = user.username
      · rw [refuseIf, raiseIf, if_pos hself, Prog.lift_error_bind] at hrest
        exact Or.inr hrest.of_done.2.1
      · exact Or.inl ⟨user, huser, hself⟩
    · exact Or.inr ⟨t, rest, rfl, Or.inr hnil⟩

end

section
variable {Token ι : Type} [DecidableEq ι] {app : Container Token} {requests : ι → Request Token}
  {s : ApiStore} {c : Config ι ApiStore ApiError (Reply Token)} {events : List (Event ι ApiStore)}

/-- In any run a step that changes, adds or removes an account is of a request that is about this
account. If that is a request to create, delete or update, it has looked earlier in the run whether
its credentials are those of an administrator, and they were; and nobody deletes the own account
this way. -/
theorem account_changed_by_right {earlier later : List (Event ι ApiStore)} {e : Event ι ApiStore}
    {username : String} (hrun : Run Others (Arrived app requests s) (earlier ++ e :: later) c)
    (hchanged : e.after.users.get username ≠ e.before.users.get username) :
    ∃ i, e.actor = some i ∧ (requests i).Concerns app username e.before.users ∧
      ∀ now creds, (requests i).adminOnly = some (now, creds) →
        ∃ e₀ ∈ earlier, e₀.actor = some i ∧ ∃ user,
          app.currentAdmin now creds e₀.before.users = .ok user ∧
          ¬ (requests i).SelfDelete user := by
  cases hactor : e.actor with
  | none =>
    have hsame : e.after.users = e.before.users := hrun.env_of_none (by simp) hactor
    rw [hsame] at hchanged
    exact absurd rfl hchanged
  | some i =>
    refine ⟨i, rfl, ?_, fun now creds hadmin => ?_⟩
    · have hstep : (e.before, e.after) ∈ own i (earlier ++ e :: later) :=
        mem_own.mpr ⟨e, by simp, hactor, rfl⟩
      have heffect := (hrun.own_thread i).always (handler_effect app (requests i)) _ hstep
      exact Request.Effect.concerns heffect hchanged
    · -- The request's own steps up to the change.
      rw [List.append_cons] at hrun
      obtain ⟨c₁, hrun₁, -⟩ := hrun.split
      have hown : own i (earlier ++ [e]) = own i earlier ++ [(e.before, e.after)] := by
        rw [own_append]
        simp [own, hactor]
      rcases adminOnly_thread hadmin (hrun₁.own_thread i) with hnil | ⟨t, rest, hsteps, hfound⟩
      · rw [hown] at hnil
        simp at hnil
      · rw [hown] at hsteps
        cases hearlier : own i earlier with
        | nil =>
          rw [hearlier] at hsteps
          obtain ⟨hfirst, -⟩ := List.cons.inj hsteps
          obtain ⟨hbefore, hafter⟩ := Prod.mk.inj hfirst
          rw [hbefore, hafter] at hchanged
          exact absurd rfl hchanged
        | cons step tail =>
          rw [hearlier] at hsteps
          obtain ⟨rfl, hrest⟩ := List.cons.inj hsteps
          obtain ⟨e₀, he₀, hactor₀, hstep₀⟩ := mem_own.mp (hearlier ▸ List.mem_cons_self)
          obtain ⟨rfl, -⟩ := Prod.mk.inj hstep₀
          have hne : rest ≠ [] := by
            rw [← hrest]
            simp
          exact ⟨e₀, he₀, hactor₀, hfound.resolve_right hne⟩

end

/-- The administrator deletes the user, who has a run: nine steps. -/
def rootDeletes : Config ℕ ApiStore ApiError (Reply TokenPayload) :=
  Arrived plainApp (fun _ => .deleteUser 0 rootCredentials "ada") staffStore

theorem account_changed_by_right_root : ∃ e₀ ∈ (play (List.replicate 8 0) rootDeletes).1,
    e₀.actor = some 0 ∧ ∃ user,
      plainApp.currentAdmin 0 rootCredentials e₀.before.users = .ok user ∧
      "ada" ≠ user.username := by
  have hrun : Run Others rootDeletes ((play (List.replicate 8 0) rootDeletes).1 ++
      ⟨some 0, (play (List.replicate 8 0) rootDeletes).2.store,
        (play (List.replicate 9 0) rootDeletes).2.store⟩ :: [])
      (play (List.replicate 9 0) rootDeletes).2 := run_play Others (List.replicate 9 0) rootDeletes
  have hchanged : (play (List.replicate 9 0) rootDeletes).2.store.users.get "ada" ≠
      (play (List.replicate 8 0) rootDeletes).2.store.users.get "ada" := by decide
  obtain ⟨i, hi, -, hright⟩ := account_changed_by_right hrun hchanged
  obtain rfl := Option.some.inj hi
  exact hright 0 rootCredentials rfl

/-- The user has a row with this id in the table. -/
def ApiStore.Has (s : ApiStore) (username : String) (table : OwnedTable) (id : String) : Prop :=
  ∃ row ∈ (s.owned table).rows, row.id = id ∧ row.createdBy = username

/-- No row of the user is added to a table; one that is there may change. -/
def NoneAdded (username : String) (s t : ApiStore) : Prop :=
  ∀ table id, t.Has username table id → s.Has username table id

instance (username : String) : IsPreorder ApiStore (NoneAdded username) where
  refl _ _ _ := id
  trans _ _ _ h h' table id := h table id ∘ h' table id

namespace ApiStore
variable {s : ApiStore} {table table' : OwnedTable} {p : OwnedRow → Bool} {id username : String}
  {row : OwnedRow}

theorem mem_delete : row ∈ ((s.delete table p).owned table').rows ↔
    row ∈ (s.owned table').rows ∧ (table' = table → p row = false) := by
  by_cases htable : table' = table
  · subst htable
    simp only [delete, Function.update_self, KeyedTable.mem_delete, true_implies]
  · simp only [delete, Function.update_of_ne htable, htable, false_implies, and_true]

/-- Deleting a row deletes it, and adds none. -/
theorem mem_deleteRow (h : row ∈ ((s.deleteRow table id).owned table').rows) :
    row ∈ (s.owned table').rows ∧ (table' = table → row.id ≠ id) := by
  cases table with
  | testProfiles =>
    obtain ⟨hmem, -⟩ := mem_delete.mp h
    obtain ⟨hmem, hkept⟩ := mem_delete.mp hmem
    exact ⟨hmem, fun htable => of_decide_eq_false (hkept htable)⟩
  | runs | testSchedules | credentials | suites =>
    obtain ⟨hmem, hkept⟩ := mem_delete.mp h
    exact ⟨hmem, fun htable => of_decide_eq_false (hkept htable)⟩

theorem not_has_deleteRow : ¬ (s.deleteRow table id).Has username table id :=
  fun ⟨_, hrow, hid, _⟩ => (mem_deleteRow hrow).2 rfl hid

theorem noneAdded_deleteRow : NoneAdded username s (s.deleteRow table id) :=
  fun _ _ ⟨row, hrow, hkept⟩ => ⟨row, (mem_deleteRow hrow).1, hkept⟩

end ApiStore

section
variable {Token : Type} {app : Container Token} {username : String}
  {s s' : ApiStore} {steps : List (ApiStore × ApiStore)} {table : OwnedTable} {r : Unit}

theorem each_always (rows : List OwnedRow) : Prog.Always (NoneAdded username)
    (each (fun row => Handler.deleteRow table row.id) rows) := by
  induction rows with
  | nil => exact .done _
  | cons row rows ih =>
    have hstep : Prog.Always (NoneAdded username) (Handler.deleteRow table row.id) :=
      .step (fun _ => ApiStore.noneAdded_deleteRow) fun _ => .done _
    exact hstep.bind fun _ => ih

/-- After the loop none of its rows is left. -/
theorem each_thread {rows : List OwnedRow} (h : Thread (NoneAdded username)
      (each (fun row => Handler.deleteRow table row.id) rows) s steps (.done (.ok r)) s') :
    ∀ row ∈ rows, ¬ s'.Has username table row.id := by
  induction rows generalizing s steps with
  | nil => exact fun _ hrow => absurd hrow List.not_mem_nil
  | cons first rows ih =>
    obtain ⟨_, _, _, t, rfl, hdelete, hrest⟩ := h.of_bind_ok
    obtain ⟨u, -, hwritten, -⟩ := hdelete.of_call
    refine List.forall_mem_cons.mpr ⟨fun hleft => ?_, ih hrest⟩
    have hlast := hrest.related ((each_always rows).guarantees (fun _ _ h => h) t)
    exact ApiStore.not_has_deleteRow (hwritten table first.id (hlast table first.id hleft))

/-- Of a table that was listed and gone through nothing of the user is left. -/
theorem deleteOwned_thread
    (h : Thread (NoneAdded username) (deleteOwned username table) s steps (.done (.ok r)) s') :
    ∀ id, ¬ s'.Has username table id := by
  obtain ⟨rows, _, _, t, rfl, hlist, hloop⟩ := h.of_bind_ok
  obtain ⟨u, -, hut, -, hrows⟩ := hlist.of_read
  cases hrows
  intro id hleft
  have hback := hloop.related ((each_always _).guarantees (fun _ _ h => h) t)
  -- What is left was there when the table was listed, perhaps with other fields.
  obtain ⟨row, hrow, rfl, hname⟩ := hut table id (hback table id hleft)
  exact each_thread hloop row (List.mem_filter.mpr ⟨hrow, decide_eq_true hname⟩) hleft

theorem deleteOwned_always : Prog.Always (NoneAdded username) (deleteOwned username table) :=
  (Prog.always_read (refl_of (NoneAdded username)) _).bind fun _ => each_always _

theorem write_always {α : Type} {f : Users → α × Users} :
    Prog.Always (NoneAdded username) (write f) :=
  .step (fun s => refl_of (NoneAdded username) s) fun _ => .done _

/-- Everything of the user is deleted and then, in the last step, the user. -/
theorem deleteUser_thread {now : ℤ} {creds : Credentials Token} {reply : Reply Token}
    (h : Thread (NoneAdded username) (app.deleteUser now creds username) s steps
      (.done (.ok reply)) s') :
    (∀ table id, ¬ s'.Has username table id) ∧
      ∃ before u, steps = before ++ [(u, u.setUsers (u.users.deleteUser username).2)] := by
  obtain ⟨_, _, _, _, rfl, -, h⟩ := h.of_bind_ok
  obtain ⟨_, _, _, _, rfl, -, h⟩ := h.of_bind_ok
  obtain ⟨_, _, _, _, rfl, -, h⟩ := h.of_bind_ok
  obtain ⟨_, _, _, _, rfl, -, h⟩ := h.of_bind_ok
  obtain ⟨_, _, _, t₁, rfl, hruns, h₁⟩ := h.of_bind_ok
  obtain ⟨_, _, _, t₂, rfl, hprofiles, h₂⟩ := h₁.of_bind_ok
  obtain ⟨_, _, _, t₃, rfl, hschedules, h₃⟩ := h₂.of_bind_ok
  obtain ⟨_, _, _, t₄, rfl, hcredentials, h₄⟩ := h₃.of_bind_ok
  obtain ⟨_, _, _, t₅, rfl, hsuites, h₅⟩ := h₄.of_bind_ok
  obtain ⟨_, _, _, t₆, rfl, hwrite, hlast⟩ := h₅.of_bind_ok
  obtain ⟨-, rfl, h₆⟩ := hlast.of_done
  have hloop : ∀ table t, Prog.Guarantees (NoneAdded username) (deleteOwned username table) t :=
    fun _ t => deleteOwned_always.guarantees (fun _ _ h => h) t
  have hrel : ∀ {t t'}, NoneAdded username t t' → NoneAdded username t' s' →
      NoneAdded username t s' := fun h h' => trans_of (NoneAdded username) h h'
  have h₅ := hrel (hwrite.related (write_always.guarantees (fun _ _ h => h) t₅)) h₆
  have h₄ := hrel (hsuites.related (hloop .suites t₄)) h₅
  have h₃ := hrel (hcredentials.related (hloop .credentials t₃)) h₄
  have h₂ := hrel (hschedules.related (hloop .testSchedules t₂)) h₃
  have h₁ := hrel (hprofiles.related (hloop .testProfiles t₁)) h₂
  -- What one loop has deleted stays deleted to the end.
  have hstay : ∀ {t table}, NoneAdded username t s' →
      (∀ id, ¬ t.Has username table id) → ∀ id, ¬ s'.Has username table id :=
    fun hts hgone id => hgone id ∘ hts _ id
  constructor
  · intro table
    cases table with
    | runs => exact hstay h₁ (deleteOwned_thread hruns)
    | testProfiles => exact hstay h₂ (deleteOwned_thread hprofiles)
    | testSchedules => exact hstay h₃ (deleteOwned_thread hschedules)
    | credentials => exact hstay h₄ (deleteOwned_thread hcredentials)
    | suites => exact hstay h₅ (deleteOwned_thread hsuites)
  · obtain ⟨u, rfl⟩ := write_thread hwrite
    simp only [List.append_nil, ← List.append_assoc]
    exact ⟨_, u, rfl⟩

theorem deleteUser_always (now : ℤ) (creds : Credentials Token) :
    Prog.Always (NoneAdded username) (app.deleteUser now creds username) := by
  have hread : ∀ {α : Type} (f : Users → Except ApiError α),
      Prog.Always (NoneAdded username) (look f) := fun _ =>
    Prog.always_read (refl_of (NoneAdded username)) _
  refine (hread _).bind fun _ => Prog.Always.bind (.done _) fun _ => (hread _).bind fun _ =>
    Prog.Always.bind (.done _) fun _ => deleteOwned_always.bind fun _ =>
    deleteOwned_always.bind fun _ => deleteOwned_always.bind fun _ =>
    deleteOwned_always.bind fun _ => deleteOwned_always.bind fun _ => ?_
  exact write_always.bind fun _ => .done _

end

section
variable {Token ι : Type} [DecidableEq ι] {app : Container Token} {requests : ι → Request Token}
  {s : ApiStore} {c : Config ι ApiStore ApiError (Reply Token)} {events : List (Event ι ApiStore)}

/-- A deletion that has succeeded leaves nothing of the user, in any of the tables, if nobody adds
for the user meanwhile. After its last statement the user is gone too, unless that finds the user
to be the last administrator. -/
theorem deleted_user_leaves_nothing (hrun : Run Others (Arrived app requests s) events c) {i : ι}
    {now : ℤ} {creds : Credentials Token} {username : String} {reply : Reply Token}
    (hdelete : requests i = .deleteUser now creds username)
    (hdone : c.progs i = .done (.ok reply))
    (hadded : ∀ e ∈ events, e.actor ≠ some i → NoneAdded username e.before e.after) :
    (∀ table, ∀ row ∈ (c.store.owned table).rows, row.createdBy ≠ username) ∧
      ∃ first e last, events = first ++ e :: last ∧ e.actor = some i ∧
        (∀ e' ∈ last, e'.actor ≠ some i) ∧ (e.after.users.get username = none ∨
          ∃ row, e.after.users.get username = some row ∧ row.role = UserRole.admin.value ∧
            e.before.users.adminCount ≤ 1) := by
  have hown := (hrun.own_thread i).always (S := NoneAdded username)
    (by rw [progs_arrived, hdelete]; exact deleteUser_always now creds)
  have hevents : ∀ e ∈ events, NoneAdded username e.before e.after := by
    intro e he
    by_cases hactor : e.actor = some i
    · exact hown _ (mem_own.mpr ⟨e, he, hactor, rfl⟩)
    · exact hadded e he hactor
  have hthread := hrun.thread_of_events hevents i
  rw [progs_arrived, hdelete, hdone] at hthread
  obtain ⟨hgone, before, u, hsteps⟩ := deleteUser_thread hthread
  obtain ⟨first, e, last, rfl, -, hactor, hstep, hlast⟩ := own_eq_append hsteps
  obtain ⟨rfl, hafter⟩ := Prod.mk.inj hstep
  refine ⟨fun table row hrow hname => hgone table row.id ⟨row, hrow, rfl, hname⟩,
    first, e, last, rfl, hactor, own_eq_nil.mp hlast, ?_⟩
  rw [hafter]
  exact Users.get_deleteUser

end

/-- A schedule is saved with another profile. -/
def ApiStore.moveSchedule (s : ApiStore) (id profileId : String) : ApiStore :=
  let schedules := (s.owned .testSchedules).update (·.id = id)
    (fun row => { row with profileId := some profileId }) fun _ => rfl
  { s with owned := Function.update s.owned .testSchedules schedules }

theorem noneAdded_moveSchedule {s : ApiStore} {username id profileId : String} :
    NoneAdded username s (s.moveSchedule id profileId) := by
  rintro table _ ⟨row, hrow, rfl, hname⟩
  by_cases htable : table = .testSchedules
  · subst htable
    simp only [ApiStore.moveSchedule, Function.update_self] at hrow
    obtain ⟨stored, hstored, rfl⟩ := List.mem_map.mp hrow
    refine ⟨stored, hstored, ?_⟩
    split at hname <;> exact ⟨by split <;> rfl, hname⟩
  · simp only [ApiStore.moveSchedule, Function.update_of_ne htable] at hrow
    exact ⟨row, hrow, rfl, hname⟩

/-- The user has a run, a profile and a schedule of another profile. -/
def scheduledStore : ApiStore where
  users := staffStore.users
  owned
    | .runs => staffStore.owned .runs
    | .testProfiles => ⟨[⟨"profile-1", "ada", none⟩, ⟨"profile-2", "root", none⟩,
        ⟨"profile-3", "root", none⟩], by decide⟩
    | .testSchedules => ⟨[⟨"schedule-1", "ada", some "profile-2"⟩], by decide⟩
    | _ => ⟨[], List.nodup_nil⟩
  attempts := OrderedDict.empty

/-- The deletion has listed the schedules. -/
def schedulesListed : List (Event ℕ ApiStore) × Config ℕ ApiStore ApiError (Reply TokenPayload) :=
  play (List.replicate 7 0)
    (Arrived plainApp (fun _ => .deleteUser 0 rootCredentials "ada") scheduledStore)

/-- Meanwhile the listed schedule is moved. -/
def scheduleMoved : Config ℕ ApiStore ApiError (Reply TokenPayload) :=
  { schedulesListed.2 with store := schedulesListed.2.store.moveSchedule "schedule-1" "profile-3" }

theorem deleted_user_leaves_nothing_ada :
    (∀ table, ∀ row ∈ ((play (List.replicate 4 0) scheduleMoved).2.store.owned table).rows,
      row.createdBy ≠ "ada") ∧
    ∃ first e last, schedulesListed.1 ++ ⟨none, schedulesListed.2.store, scheduleMoved.store⟩ ::
        (play (List.replicate 4 0) scheduleMoved).1 = first ++ e :: last ∧ e.actor = some 0 ∧
      (∀ e' ∈ last, e'.actor ≠ some 0) ∧ (e.after.users.get "ada" = none ∨
        ∃ row, e.after.users.get "ada" = some row ∧ row.role = UserRole.admin.value ∧
          e.before.users.adminCount ≤ 1) := by
  have hrun : Run Others _ _ _ :=
    (run_play Others (List.replicate 7 0) _).append
      (.env (s := scheduleMoved.store) rfl (run_play Others (List.replicate 4 0) scheduleMoved))
  have hdone : (play (List.replicate 4 0) scheduleMoved).2.progs 0 =
      .done (.ok (.deleted "ada")) := rfl
  refine deleted_user_leaves_nothing hrun rfl hdone fun e he hother => ?_
  rcases List.mem_append.mp he with hfirst | hrest
  · have hactor : ∀ e ∈ schedulesListed.1, e.actor = some 0 := by decide
    exact absurd (hactor e hfirst) hother
  · rcases List.mem_cons.mp hrest with rfl | hlast
    · exact noneAdded_moveSchedule
    · have hactor : ∀ e ∈ (play (List.replicate 4 0) scheduleMoved).1, e.actor = some 0 := by decide
      exact absurd (hactor e hlast) hother

end QaRunner.Accounts
