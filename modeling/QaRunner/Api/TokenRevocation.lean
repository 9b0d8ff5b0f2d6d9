import QaRunner.Api.AccountSafety

/-! Tokens of an account after a logout or a change of its password, whatever else is requested
meanwhile. -/
namespace QaRunner.Accounts
open Guarded Interleaving Handler

section
variable {Token ι : Type} [DecidableEq ι] {app : Container Token} {requests : ι → Request Token}
  {s : ApiStore} {c c' : Config ι ApiStore ApiError (Reply Token)} {events : List (Event ι ApiStore)}

/-- A write of some account. -/
def Kept (users users' : Users) : Prop := ∃ username, Users.Keeps username users users'

/-- The account stays, and its tokens' version does not go back. -/
def Versioned (username : String) (users users' : Users) : Prop :=
  ∀ row, users.get username = some row →
    ∃ row', users'.get username = some row' ∧ row.tokenVersion ≤ row'.tokenVersion

instance (username : String) : IsPreorder Users (Versioned username) where
  refl _ row hrow := ⟨row, hrow, le_refl _⟩
  trans _ _ _ h h' row hrow := by
    obtain ⟨row', hrow', hle⟩ := h row hrow
    obtain ⟨row'', hrow'', hle'⟩ := h' row' hrow'
    exact ⟨row'', hrow'', hle.trans hle'⟩

theorem Kept.versioned {users users' : Users} {username : String} (h : Kept users users')
    (hpresent : users'.get username ≠ none) : Versioned username users users' := by
  intro row hrow
  obtain ⟨row', hrow'⟩ := Option.ne_none_iff_exists'.mp hpresent
  obtain ⟨_, hkeeps⟩ := h
  exact ⟨row', hrow', hkeeps.versionKept username row row' hrow hrow'⟩

/-- The account stays, with the same password. -/
def HashKept (username : String) (users users' : Users) : Prop :=
  ∀ row, users.get username = some row →
    ∃ row', users'.get username = some row' ∧ row'.passwordHash = row.passwordHash

instance (username : String) : IsPreorder Users (HashKept username) where
  refl _ row hrow := ⟨row, hrow, rfl⟩
  trans _ _ _ h h' row hrow := by
    obtain ⟨row', hrow', hsame⟩ := h row hrow
    obtain ⟨row'', hrow'', hsame'⟩ := h' row' hrow'
    exact ⟨row'', hrow'', hsame'.trans hsame⟩

section
variable {users users' : Users} {username target : String} {p : UserRow → Bool}
  {f : UserRow → UserRow}

theorem hashKept_update (hf : ∀ row, (f row).username = row.username)
    (h : ∀ row, p row = true → row.username = username →
      (f row).passwordHash = row.passwordHash) : HashKept username users (users.update p f hf) := by
  intro row hrow
  rw [KeyedTable.get_update, hrow, Option.map_some]
  refine ⟨_, rfl, ?_⟩
  split
  · next hp => exact h row hp (KeyedTable.key_of_get hrow)
  · rfl

theorem hashKept_of_get (h : ∀ row row', users.get username = some row →
    users'.get username = some row' → row' = row) (hpresent : users'.get username ≠ none) :
    HashKept username users users' := by
  intro row hrow
  obtain ⟨row', hrow'⟩ := Option.ne_none_iff_exists'.mp hpresent
  exact ⟨row', hrow', by rw [h row row' hrow hrow']⟩

theorem hashKept_createUser {passwordHash role nowStr : String}
    (h : users.createUser target passwordHash role nowStr = some users')
    (hpresent : users'.get username ≠ none) : HashKept username users users' := by
  obtain ⟨hnew, -, hget⟩ := Users.createUser_eq_some h
  apply hashKept_of_get _ hpresent
  intro row row' hrow hrow'
  have hname : username ≠ target := by
    rintro rfl
    rw [hnew] at hrow
    cases hrow
  rw [hget, if_neg hname, hrow] at hrow'
  exact (Option.some.inj hrow').symm

theorem hashKept_deleteUser (hpresent : (users.deleteUser target).2.get username ≠ none) :
    HashKept username users (users.deleteUser target).2 := by
  apply hashKept_of_get _ hpresent
  intro row row' hrow hrow'
  rw [Users.deleteUser, KeyedTable.get_delete, hrow] at hrow'
  exact (Option.some.inj (Option.filter_eq_some_iff.mp hrow').1).symm

/-- The request sets the user's password. -/
def Request.ChangesPassword (username : String) : Request Token → Prop
  | .updateUser _ _ target req _ => target = username ∧ req.password.isSome = true
  | _ => False

theorem Request.Effect.hashKept {request : Request Token} (h : request.Effect app users users')
    (hother : ¬ request.ChangesPassword username) (hpresent : users'.get username ≠ none) :
    HashKept username users users' := by
  rcases h with rfl | h
  · exact refl_of (HashKept username) _
  · cases request with
    | login | getMe | listUsers => exact h.elim
    | logout =>
      obtain ⟨_, _, -, rfl⟩ := h
      exact hashKept_update UserRow.username_incrementTokenVersion fun _ _ _ => rfl
    | createUser =>
      obtain ⟨_, hcreate⟩ := h
      exact hashKept_createUser hcreate hpresent
    | deleteUser =>
      cases h
      exact hashKept_deleteUser hpresent
    | updateUser =>
      rcases h with ⟨role, -, rfl | rfl⟩ | ⟨hsome, rfl | ⟨passwordHash, rfl⟩⟩
      · exact hashKept_update (fun row => row.username_setRole role.value) fun _ _ _ => rfl
      · exact hashKept_update (fun row => row.username_setRole role.value) fun _ _ _ => rfl
      · exact hashKept_update UserRow.username_incrementTokenVersion fun _ _ _ => rfl
      · apply hashKept_update fun row => row.username_setPasswordHash passwordHash
        exact fun row hp hname => absurd ⟨(of_decide_eq_true hp).symm.trans hname, hsome⟩ hother
    | initializeStore adminUser _ _ nowStr =>
      obtain ⟨passwordHash, rfl⟩ := h
      rcases Users.seedAdmin_cases users adminUser passwordHash nowStr with
        ⟨-, hcreate⟩ | ⟨-, hsame⟩
      · exact hashKept_createUser hcreate hpresent
      · rw [hsame]
        exact refl_of (HashKept username) _

end

omit [DecidableEq ι] in
theorem others_kept (s t : ApiStore) (h : Others s t) : OnUsers Kept s t := by
  have hsame : t.users = s.users := h
  rw [OnUsers, hsame]
  exact ⟨"", Users.Keeps.refl _ _⟩

/-- Requests of which some are handled already. -/
def Reached (app : Container Token) (requests : ι → Request Token)
    (c : Config ι ApiStore ApiError (Reply Token)) : Prop :=
  ∃ s events, Run Others (Arrived app requests s) events c

theorem Reached.always (h : Reached app requests c) (i : ι) :
    Prog.Always (OnUsers Kept) (c.progs i) := by
  obtain ⟨s, events, hrun⟩ := h
  have hstart : ∀ i, Prog.Always (OnUsers Kept) ((Arrived app requests s).progs i) :=
    fun i => (handler_effect app (requests i)).mono fun _ _ heffect => heffect.keeps
  exact (hrun.always hstart others_kept).2 i

theorem Reached.run (h : Reached app requests c) (hrun : Run Others c events c') :
    Reached app requests c' := by
  obtain ⟨s, before, hbefore⟩ := h
  exact ⟨s, before ++ events, hbefore.append hrun⟩

/-- While an account is there, its version does not go back. -/
theorem Reached.versioned {username : String} (h : Reached app requests c)
    (hrun : Run Others c events c') {e : Event ι ApiStore} (he : e ∈ events)
    (hpresent : e.after.users.get username ≠ none) :
    OnUsers (Versioned username) e.before e.after :=
  Kept.versioned ((hrun.always h.always others_kept).1 e he) hpresent

theorem throttle_thread {R : ApiStore → ApiStore → Prop} {call : Core.LoginCall}
    {result : Except ApiError Unit} {s s' : ApiStore} {steps : List (ApiStore × ApiStore)}
    (h : Thread R (app.throttle call) s steps (.done result) s') : ∃ step, steps = [step] := by
  have hwithin : Prog.Within 1 (app.throttle call) := .step fun _ => .done _ _
  cases steps with
  | nil => cases h.of_nil
  | cons step rest =>
    have hle := (h.within hwithin).1
    rw [List.length_cons, Nat.succ_le_succ_iff, Nat.le_zero, List.length_eq_zero_iff] at hle
    exact ⟨step, by rw [hle]⟩

/-- A login ends with a token of the version that it has read in its second step, for a password
that it has checked against the stored hash. -/
theorem login_thread {R : ApiStore → ApiStore → Prop} [IsPreorder ApiStore R] {req : LoginRequest}
    {clientIp : String} {clock : LoginClock} {token : Token} {s s' : ApiStore}
    {steps : List (ApiStore × ApiStore)}
    (h : Thread R (app.login req clientIp clock) s steps (.done (.ok (.token token))) s') :
    ∃ check t row last, steps = check :: (t, t) :: last ∧ t.users.get req.username = some row ∧
      app.bcrypt.verifyPassword req.password row.passwordHash = true ∧
      token = app.createAccessToken clock.issued req.username row.role row.tokenVersion := by
  obtain ⟨_, _, rest, u, rfl, hcheck, hrest⟩ := h.of_bind_ok
  obtain ⟨check, rfl⟩ := throttle_thread hcheck
  obtain ⟨record, _, last, v, rfl, hlook, hlast⟩ := hrest.of_bind_ok
  obtain ⟨t, -, -, rfl, hrecord⟩ := hlook.of_read
  cases hrecord
  cases hrow : t.users.get req.username with
  | none =>
    rw [Users.getUser, hrow] at hlast
    obtain ⟨_, _, _, _, -, -, hfail⟩ := hlast.of_bind_ok
    cases hfail.of_lift.1
  | some row =>
    rw [Users.getUser, hrow] at hlast
    dsimp only at hlast
    split at hlast
    · next hverified =>
      obtain ⟨_, _, _, _, -, -, hissued⟩ := hlast.of_bind_ok
      obtain ⟨hdone, -⟩ := hissued.of_done
      cases hdone
      refine ⟨check, t, row, _, rfl, hrow, hverified, ?_⟩
      rw [← KeyedTable.key_of_get hrow]
    · obtain ⟨_, _, _, _, -, -, hfail⟩ := hlast.of_bind_ok
      cases hfail.of_lift.1

/-- The request makes older tokens of a user invalid: a logout with a token of the user, or a change
of the user's password. -/
def Request.Revokes (app : Container Token) (username : String) : Request Token → Prop
  | .logout now creds => ∃ version, app.tokenSubject now creds.revoked = some (username, version)
  | .updateUser _ _ target req _ => target = username ∧ req.password.isSome = true
  | _ => False

/-- A step that bumps the version of a user's tokens. -/
def Bump (username : String) (step : ApiStore × ApiStore) : Prop :=
  step.2.users = (step.1.users.incrementTokenVersion username).2

section
variable {R : ApiStore → ApiStore → Prop} [IsPreorder ApiStore R] {t t' : ApiStore}
  {steps : List (ApiStore × ApiStore)} {username : String} {reply : Reply Token}

theorem logout_thread {now : ℤ} {creds : Credentials Token} {version : ℤ}
    (hsubject : app.tokenSubject now creds.revoked = some (username, version))
    (h : Thread R (app.logout now creds) t steps (.done (.ok reply)) t') :
    ∃ step ∈ steps, Bump username step := by
  rw [Container.logout, hsubject] at h
  obtain ⟨_, _, _, _, rfl, hwrite, -⟩ := h.of_bind_ok
  obtain ⟨u, rfl⟩ := write_thread hwrite
  exact ⟨_, List.mem_append_left _ (List.mem_singleton_self _), rfl⟩

/-- The password changes first, and then the version of the tokens. -/
theorem changePassword_thread {password : Password} {salt : String} {r : Unit}
    (h : Thread R (app.changePassword username password salt) t steps (.done (.ok r)) t') :
    ∃ hashed u v, app.bcrypt.hashPassword password.val salt = .ok hashed ∧
      steps = [(u, u.setUsers (u.users.updatePassword username hashed).2),
        (v, v.setUsers (v.users.incrementTokenVersion username).2)] := by
  obtain ⟨hashed, _, _, _, rfl, hhash, hrest⟩ := h.of_bind_ok
  obtain ⟨hhashed, rfl⟩ := hhash.of_lift
  obtain ⟨_, _, _, _, rfl, hupdate, hlast⟩ := hrest.of_bind_ok
  obtain ⟨u, rfl⟩ := write_thread hupdate
  obtain ⟨_, _, _, _, rfl, hbump, hend⟩ := hlast.of_bind_ok
  obtain ⟨v, rfl⟩ := write_thread hbump
  obtain ⟨-, rfl, -⟩ := hend.of_done
  exact ⟨hashed, u, v, hhashed, rfl⟩

theorem updateUser_thread {now : ℤ} {creds : Credentials Token} {req : UserUpdateRequest}
    {salt : String} {password : Password} (hpassword : req.password = some password)
    (h : Thread R (app.updateUser now creds username req salt) t steps (.done (.ok reply)) t') :
    ∃ before after hashed u v, app.bcrypt.hashPassword password.val salt = .ok hashed ∧
      steps = before ++ (u, u.setUsers (u.users.updatePassword username hashed).2) ::
        (v, v.setUsers (v.users.incrementTokenVersion username).2) :: after ∧
      ∀ step ∈ after, OnUsers (HashKept username) step.1 step.2 := by
  obtain ⟨_, first, _, _, rfl, -, hchecked⟩ := h.of_bind_ok
  obtain ⟨_, second, _, _, rfl, -, hlook⟩ := hchecked.of_bind_ok
  obtain ⟨existing, third, _, _, rfl, -, hfound⟩ := hlook.of_bind_ok
  cases existing with
  | none => cases hfound.of_lift.1
  | some existing =>
    obtain ⟨_, fourth, _, _, rfl, -, hrest⟩ := hfound.of_bind_ok
    obtain ⟨_, _, last, _, rfl, hchange, hlast⟩ := hrest.of_bind_ok
    rw [hpassword] at hchange
    obtain ⟨hashed, u, v, hhashed, rfl⟩ := changePassword_thread hchange
    refine ⟨first ++ (second ++ (third ++ fourth)), last, hashed, u, v, hhashed, by simp, ?_⟩
    refine hlast.always ((always_optionally fun role _ => ?_).bind fun _ =>
      (always_lift _).bind fun _ => .done _)
    have hrole : ∀ users : Users, HashKept username users (users.updateRole username role.value).2 :=
      fun _ => hashKept_update (fun row => row.username_setRole role.value) fun _ _ _ => rfl
    exact (always_write hrole).bind fun _ => .done _

theorem Request.Revokes.thread {request : Request Token} (hrevokes : request.Revokes app username)
    (h : Thread R (request.handler app) t steps (.done (.ok reply)) t') :
    ∃ step ∈ steps, Bump username step := by
  cases request with
  | logout now creds =>
    obtain ⟨version, hsubject⟩ := hrevokes
    exact logout_thread hsubject h
  | updateUser now creds target req salt =>
    obtain ⟨rfl, hsome⟩ := hrevokes
    obtain ⟨password, hpassword⟩ := Option.isSome_iff_exists.mp hsome
    obtain ⟨before, after, _, _, _, -, rfl, -⟩ := updateUser_thread hpassword h
    exact ⟨_, List.mem_append_right _ (List.mem_cons_of_mem _ List.mem_cons_self), rfl⟩
  | login | getMe | createUser | listUsers | deleteUser | initializeStore => exact hrevokes.elim

end

theorem Bump.get {username : String} {step : ApiStore × ApiStore} (h : Bump username step)
    {row : UserRow} (hrow : step.1.users.get username = some row) :
    step.2.users.get username = some row.incrementTokenVersion := by
  have hsame : step.2.users = (step.1.users.incrementTokenVersion username).2 := h
  rw [hsame, Users.incrementTokenVersion, KeyedTable.get_update, hrow, Option.map_some,
    if_pos (decide_eq_true (KeyedTable.key_of_get hrow))]

/-- After a request that revokes a user's tokens has succeeded, no token that an earlier login has
issued to the user is accepted, as long as the account that the login has read, in its second step,
is not deleted. What else is requested meanwhile, and how far it has come, does not matter. -/
theorem revoked_token_refused (hjwt : app.jwt.DecodesEncoded) (hreach : Reached app requests c)
    {i j : ι} {req : LoginRequest} {clientIp : String} {clock : LoginClock} {token : Token}
    {reply : Reply Token} {c₁ c₂ c₃ : Config ι ApiStore ApiError (Reply Token)}
    {earlier issuing revoking later : List (Event ι ApiStore)} {reading : Event ι ApiStore}
    (hlogin : c.progs j = app.login req clientIp clock)
    (hissue : Run Others c (earlier ++ reading :: issuing) c₁)
    (hreading : (own j earlier).length = 1 ∧ reading.actor = some j)
    (htoken : c₁.progs j = .done (.ok (.token token)))
    (hrevokes : (requests i).Revokes app req.username)
    (hfresh : c₁.progs i = (requests i).handler app) (hrevoke : Run Others c₁ revoking c₂)
    (hdone : c₂.progs i = .done (.ok reply)) (hlater : Run Others c₂ later c₃)
    (hpresent : ∀ e ∈ issuing ++ revoking ++ later, e.after.users.get req.username ≠ none)
    {creds : Credentials Token} (hcreds : creds.token = some token) (now : ℤ) :
    ∃ detail, app.currentUser now creds c₃.store.users =
      .error (Container.unauthorized detail) := by
  have hreach₁ := hreach.run hissue
  have hreach₂ := hreach₁.run hrevoke
  have hissuing : ∀ e ∈ issuing, OnUsers (Versioned req.username) e.before e.after :=
    fun e he => hreach.versioned hissue (by simp [he]) (hpresent e (by simp [he]))
  have hrevoking : ∀ e ∈ revoking, OnUsers (Versioned req.username) e.before e.after :=
    fun e he => hreach₁.versioned hrevoke he (hpresent e (by simp [he]))
  have hlast := hlater.related_of_events (R := OnUsers (Versioned req.username))
    fun e he => hreach₂.versioned hlater he (hpresent e (by simp [he]))
  -- The login has read some version,
  have hloginthread := hissue.own_thread j
  rw [hlogin, htoken, own_append] at hloginthread
  obtain ⟨check, t, row, last, hown, hrow, -, rfl⟩ := login_thread hloginthread
  obtain ⟨first, hfirst⟩ := List.length_eq_one_iff.mp hreading.1
  rw [hfirst, own_cons_self hreading.2] at hown
  obtain ⟨-, hown⟩ := List.cons.inj hown
  obtain ⟨rfl, hsame⟩ := Prod.mk.inj (List.cons.inj hown).1
  obtain ⟨c₀, -, hfrom⟩ := hissue.split
  obtain ⟨-, c₀', hc₀', hrest⟩ := hfrom.uncons
  have hread := hrest.related_of_events hissuing
  rw [hc₀', hsame] at hread
  obtain ⟨row₁, hrow₁, hle₁⟩ := hread row hrow
  -- the revocation has left it behind,
  have hrevokethread := hrevoke.own_thread i
  rw [hfresh, hdone] at hrevokethread
  obtain ⟨step, hstep, hbump⟩ := hrevokes.thread hrevokethread
  obtain ⟨e', he', -, rfl⟩ := mem_own.mp hstep
  obtain ⟨hbefore, hafter⟩ := hrevoke.related_around hrevoking he'
  obtain ⟨row₂, hrow₂, hle₂⟩ := hbefore row₁ hrow₁
  obtain ⟨row₃, hrow₃, hle₃⟩ := hafter _ (hbump.get hrow₂)
  -- and it has not come back.
  obtain ⟨row₄, hrow₄, hle₄⟩ := hlast row₃ hrow₃
  have hversion : row.tokenVersion < row₄.tokenVersion := by
    have hnext : row₂.incrementTokenVersion.tokenVersion = row₂.tokenVersion + 1 := rfl
    omega
  rcases Container.tokenSubject_createAccessToken hjwt now clock.issued req.username row.role
    row.tokenVersion with hsubject | hsubject <;> rw [← hcreds] at hsubject
  · exact ⟨_, by rw [Container.currentUser, hsubject]⟩
  · exact ⟨_, Container.currentUser_outdated hsubject hrow₄ hversion⟩

theorem plainApp_decodes : plainApp.jwt.DecodesEncoded := by
  intro now payload payload' key algorithm h
  dsimp only [plainApp] at h
  split at h
  · exact (Option.some.inj h).symm
  · cases h

def adaToken : TokenPayload := plainApp.createAccessToken 0 "ada" "user" 0

/-- The user logs in and logs out, and the administrator creates the user. -/
def adaSession : ℕ → Request TokenPayload
  | 0 => .login ⟨"ada", "password"⟩ "127.0.0.1" ⟨0, 0, 0⟩
  | 1 => .logout 0 ⟨none, some adaToken⟩
  | _ => .createUser 0 rootCredentials { username := "ada", password := ⟨"password", by decide⟩ }
      "salt" "2026-01-02"

/-- The administrator alone. -/
def rootStore : ApiStore where
  users := ⟨[⟨"root", "saltlong enough", "admin", "2026-01-01", 0⟩], by decide⟩
  owned _ := ⟨[], List.nodup_nil⟩
  attempts := OrderedDict.empty

/-- The login has passed the throttle before there is an account, which is created then. -/
def adaCreated : List (Event ℕ ApiStore) × Config ℕ ApiStore ApiError (Reply TokenPayload) :=
  play [0, 2, 2, 2, 2] (Arrived plainApp adaSession rootStore)

theorem revoked_token_refused_ada : ∃ detail,
    plainApp.currentUser 0 ⟨none, some adaToken⟩
      (play [1] (play [0, 0] adaCreated.2).2).2.store.users =
      .error (Container.unauthorized detail) := by
  have hissue : Run Others (Arrived plainApp adaSession rootStore)
      (adaCreated.1 ++ ⟨some 0, adaCreated.2.store, adaCreated.2.store⟩ ::
        (play [0] (play [0] adaCreated.2).2).1) (play [0, 0] adaCreated.2).2 :=
    run_play Others [0, 2, 2, 2, 2, 0, 0] _
  have hrevokes : (adaSession 1).Revokes plainApp "ada" := ⟨0, rfl⟩
  have hcreds : (⟨none, some adaToken⟩ : Credentials TokenPayload).token = some adaToken := rfl
  exact revoked_token_refused (j := 0) plainApp_decodes ⟨rootStore, [], .refl _⟩ rfl hissue
    ⟨rfl, rfl⟩ rfl hrevokes rfl (run_play Others [1] _) rfl (.refl _) (by decide) hcreds 0

/-- The steps of a run that are not those of a change of the user's password keep the password, as
long as the account is there. -/
theorem hashKept_event {username : String} (hrun : Run Others (Arrived app requests s) events c)
    {e : Event ι ApiStore} (he : e ∈ events) (hpresent : e.after.users.get username ≠ none)
    (hother : ∀ k, e.actor = some k → ¬ (requests k).ChangesPassword username) :
    OnUsers (HashKept username) e.before e.after := by
  cases hactor : e.actor with
  | none =>
    have hsame : e.after.users = e.before.users := hrun.env_of_none he hactor
    rw [OnUsers, hsame]
    exact refl_of (HashKept username) _
  | some k =>
    have heffect := (hrun.own_thread k).always (handler_effect app (requests k)) _
      (mem_own.mpr ⟨e, he, hactor, rfl⟩)
    exact Request.Effect.hashKept heffect (hother k hactor) hpresent

theorem get_updatePassword {users : Users} {username passwordHash : String}
    (h : (users.updatePassword username passwordHash).2.get username ≠ none) :
    ∃ row, (users.updatePassword username passwordHash).2.get username = some row ∧
      row.passwordHash = passwordHash := by
  obtain ⟨row, hrow⟩ := Option.ne_none_iff_exists'.mp h
  refine ⟨row, hrow, ?_⟩
  rw [Users.updatePassword, KeyedTable.get_update, Option.map_eq_some_iff] at hrow
  obtain ⟨old, hold, rfl⟩ := hrow
  rw [if_pos (decide_eq_true (KeyedTable.key_of_get hold))]
  rfl

/-- Where in a run a change of the password bumps the version: the new password is stored then, and
stays. -/
theorem exists_change {earlier : List (Event ι ApiStore)}
    (hrun : Run Others (Arrived app requests s) (earlier ++ events) c) {i : ι} {now : ℤ}
    {admin : Credentials Token} {username salt : String} {req : UserUpdateRequest}
    {password : Password} {reply : Reply Token}
    (hchange : requests i = .updateUser now admin username req salt)
    (hpassword : req.password = some password) (hdone : c.progs i = .done (.ok reply))
    (honly : ∀ k, k ≠ i → ¬ (requests k).ChangesPassword username)
    (hfresh : ∀ e ∈ earlier, e.actor ≠ some i)
    (hpresent : ∀ e ∈ events, e.after.users.get username ≠ none) :
    ∃ hashed row early e late, app.bcrypt.hashPassword password.val salt = .ok hashed ∧
      events = early ++ e :: late ∧ e.actor = some i ∧ Bump username (e.before, e.after) ∧
      e.before.users.get username = some row ∧ row.passwordHash = hashed ∧
      ∀ e' ∈ late, OnUsers (HashKept username) e'.before e'.after := by
  have hthread := hrun.own_thread i
  rw [progs_arrived, hchange, hdone, own_append, own_eq_nil.mpr hfresh, List.nil_append] at hthread
  obtain ⟨before, after, hashed, u, v, hhashed, hown, hafter⟩ := updateUser_thread hpassword hthread
  obtain ⟨first, set, rest, rfl, -, -, hset, hrest⟩ := own_eq_append hown
  rw [← List.nil_append (_ :: after)] at hrest
  obtain ⟨mid, bump, late, rfl, hmid, hactor, hbump, hlate⟩ := own_eq_append hrest
  obtain ⟨rfl, hsetafter⟩ := Prod.mk.inj hset
  obtain ⟨rfl, hbumpafter⟩ := Prod.mk.inj hbump
  have hother : ∀ e ∈ mid, ∀ k, e.actor = some k → ¬ (requests k).ChangesPassword username := by
    intro e he k hk
    apply honly
    rintro rfl
    have hmem : (e.before, e.after) ∈ own k mid := mem_own.mpr ⟨e, he, hk, rfl⟩
    rw [hmid] at hmem
    exact absurd hmem List.not_mem_nil
  -- From the write of the password on it stays until the bump,
  obtain ⟨c₀, -, hrun₀⟩ := hrun.split
  obtain ⟨c₁, -, hfrom⟩ := hrun₀.split
  obtain ⟨-, c₂, hc₂, hrun₂⟩ := hfrom.uncons
  obtain ⟨c₃, hrunmid, hrun₃⟩ := hrun₂.split
  obtain ⟨hc₃, -⟩ := hrun₃.uncons
  have hkept : OnUsers (HashKept username) c₂.store c₃.store := hrunmid.related_of_events
    fun e he => hashKept_event hrun (by simp [he]) (hpresent e (by simp [he])) (hother e he)
  have husers : set.after.users = (set.before.users.updatePassword username hashed).2 := by
    rw [hsetafter]
    rfl
  have hsetpresent := hpresent set (by simp)
  rw [husers] at hsetpresent
  obtain ⟨row, hrow, hhash⟩ := get_updatePassword hsetpresent
  rw [← husers, ← hc₂] at hrow
  obtain ⟨row', hrow', hsame⟩ := hkept row hrow
  rw [hc₃] at hrow'
  refine ⟨hashed, row', first ++ set :: mid, bump, late, hhashed, by simp, hactor, ?_, hrow',
    hsame.trans hhash, ?_⟩
  · rw [Bump, hbumpafter]
    rfl
  -- and after it: what is left of this request leaves the password, and the others never touch it.
  · intro e he
    by_cases hown : e.actor = some i
    · have hmem : (e.before, e.after) ∈ own i late := mem_own.mpr ⟨e, he, hown, rfl⟩
      rw [hlate] at hmem
      exact hafter _ hmem
    · refine hashKept_event hrun (by simp [he]) (hpresent e (by simp [he])) fun k hk => honly k ?_
      rintro rfl
      exact hown hk

/-- A change of a user's password that is the only one among the requests, and has succeeded, shuts
out the old password while the account is there: a token that is accepted afterwards comes from a
login with the new one. A login that overlaps the change is no exception, whether it has read the
account before the change, between its two writes or after them. -/
theorem password_change_locks_out (hjwt : app.jwt.DecodesEncoded)
    {earlier : List (Event ι ApiStore)}
    (hrun : Run Others (Arrived app requests s) (earlier ++ events) c) {i j : ι} {now : ℤ}
    {admin creds : Credentials Token} {username salt clientIp : String} {req : UserUpdateRequest}
    {password : Password} {reply : Reply Token} {login : LoginRequest} {clock : LoginClock}
    {token : Token} {user : User}
    (hchange : requests i = .updateUser now admin username req salt)
    (hpassword : req.password = some password) (hdone : c.progs i = .done (.ok reply))
    (honly : ∀ k, k ≠ i → ¬ (requests k).ChangesPassword username)
    (hfresh : ∀ e ∈ earlier, e.actor ≠ some i ∧ e.actor ≠ some j)
    (hpresent : ∀ e ∈ events, e.after.users.get username ≠ none)
    (hlogin : requests j = .login login clientIp clock) (husername : login.username = username)
    (htoken : c.progs j = .done (.ok (.token token))) (hcreds : creds.token = some token)
    {later : ℤ} (haccepted : app.currentUser later creds c.store.users = .ok user) :
    ∃ hashed, app.bcrypt.hashPassword password.val salt = .ok hashed ∧
      app.bcrypt.verifyPassword login.password hashed = true := by
  subst husername
  have hreached : Reached app requests (Arrived app requests s) := ⟨s, [], .refl _⟩
  have hversioned : ∀ e ∈ events, OnUsers (Versioned login.username) e.before e.after :=
    fun e he => hreached.versioned hrun (by simp [he]) (hpresent e he)
  obtain ⟨hashed, changed, early, bump, late, hhashed, rfl, hactor, hbump, hchanged, hhash, hkept⟩ :=
    exists_change hrun hchange hpassword hdone honly (fun e he => (hfresh e he).1) hpresent
  refine ⟨hashed, hhashed, ?_⟩
  obtain ⟨c₀, -, hrun₀⟩ := hrun.split
  obtain ⟨c₁, hrun₁, hfrom⟩ := hrun₀.split
  obtain ⟨hc₁, c₂, hc₂, hrun₂⟩ := hfrom.uncons
  -- The login has read the account before the bump or after it.
  have hthread := hrun.own_thread j
  rw [progs_arrived, hlogin, htoken, own_append, own_eq_nil.mpr fun e he => (hfresh e he).2,
    List.nil_append] at hthread
  obtain ⟨check, t, row, last, hown, hrow, hverified, rfl⟩ := login_thread hthread
  obtain ⟨e, he, hreader, hstep⟩ := mem_own.mp (hown ▸ List.mem_cons_of_mem check List.mem_cons_self)
  obtain ⟨rfl, hsame⟩ := Prod.mk.inj hstep
  -- An accepted token is of the version that is stored.
  obtain ⟨version, stored, hsubject, hstored, hversion, -⟩ :=
    Container.currentUser_eq_ok haccepted
  rw [hcreds] at hsubject
  have hissued := Container.tokenSubject_createAccessToken hjwt later clock.issued
    login.username row.role row.tokenVersion
  rw [hsubject] at hissued
  obtain ⟨hname, rfl⟩ := Prod.mk.inj (Option.some.inj (hissued.resolve_left (Option.some_ne_none _)))
  rw [hname] at hstored
  rcases List.mem_append.mp he with hearly | hlate
  · exfalso
    have hbefore := (hrun₁.related_around (R := OnUsers (Versioned login.username))
      (fun e he => hversioned e (by simp [he])) hearly).2
    rw [hsame, hc₁] at hbefore
    obtain ⟨row₁, hrow₁, hle₁⟩ := hbefore row hrow
    have hafter := hrun₂.related_of_events (R := OnUsers (Versioned login.username))
      fun e he => hversioned e (by simp [he])
    rw [hc₂] at hafter
    obtain ⟨row₂, hrow₂, hle₂⟩ := hafter _ (hbump.get hrow₁)
    obtain rfl : row₂ = stored := Option.some.inj (hrow₂.symm.trans hstored)
    have hnext : row₁.incrementTokenVersion.tokenVersion = row₁.tokenVersion + 1 := rfl
    omega
  · rcases List.mem_cons.mp hlate with rfl | hlate
    · rw [hactor] at hreader
      cases hreader
      rw [hchange] at hlogin
      cases hlogin
    · have hbefore := (hrun₂.related_around hkept hlate).1
      rw [hc₂] at hbefore
      obtain ⟨row', hrow', hsame'⟩ := hbefore _ (hbump.get hchanged)
      obtain rfl : row' = row := Option.some.inj (hrow'.symm.trans hrow)
      have hkeeps : changed.incrementTokenVersion.passwordHash = changed.passwordHash := rfl
      rw [← hhash, ← hkeeps, ← hsame']
      exact hverified

end

/-- The administrator changes the password of a user whom somebody else creates, and the user logs
in. -/
def adaChange : ℕ → Request TokenPayload
  | 0 => .updateUser 0 rootCredentials "ada" ⟨some ⟨"new password", by decide⟩, none⟩ "salt"
  | 1 => .login ⟨"ada", "new password"⟩ "127.0.0.1" ⟨0, 0, 0⟩
  | _ => adaSession 2

/-- The user is created. -/
def adaArrived : List (Event ℕ ApiStore) × Config ℕ ApiStore ApiError (Reply TokenPayload) :=
  play [2, 2, 2, 2] (Arrived plainApp adaChange rootStore)

def changedToken : TokenPayload := plainApp.createAccessToken 0 "ada" "user" 1

theorem password_change_locks_out_ada : ∃ hashed,
    plainApp.bcrypt.hashPassword "new password" "salt" = .ok hashed ∧
      plainApp.bcrypt.verifyPassword "new password" hashed = true := by
  have hrun := (run_play Others [2, 2, 2, 2] (Arrived plainApp adaChange rootStore)).append
    (run_play Others [1, 0, 0, 0, 0, 1, 1] adaArrived.2)
  have honly : ∀ k, k ≠ 0 → ¬ (adaChange k).ChangesPassword "ada" := by
    intro k hk hchanges
    match k with
    | 0 => exact hk rfl
    | 1 | k + 2 => exact hchanges
  have haccepted : plainApp.currentUser 0 ⟨none, some changedToken⟩
      (play [1, 0, 0, 0, 0, 1, 1] adaArrived.2).2.store.users =
      .ok ⟨"ada", .user, "2026-01-02"⟩ := rfl
  exact password_change_locks_out (i := 0) (j := 1) plainApp_decodes hrun rfl rfl rfl honly
    (by decide) (by decide) rfl rfl rfl rfl haccepted

end QaRunner.Accounts
