import QaRunner.Api.Accounts

/-! What each step of an account request does to the users, and that however the requests interleave
an administrator remains. -/
namespace QaRunner.Accounts
open Guarded Interleaving Handler

/-- A relation of stores by their users. -/
def OnUsers (E : Users → Users → Prop) (s t : ApiStore) : Prop := E s.users t.users

/-- Other requests change what belongs to users and the throttle, not the users. -/
def Others : ApiStore → ApiStore → Prop := OnUsers fun users users' => users' = users

instance {E : Users → Users → Prop} [IsPreorder Users E] : IsPreorder ApiStore (OnUsers E) where
  refl s := refl_of E s.users
  trans _ _ _ h h' := trans_of E h h'

section
variable {α β Token : Type} {E : Users → Users → Prop} {app : Container Token}

theorem always_lift (x : Except ApiError α) : Prog.Always (OnUsers E) (Prog.lift x) := .done x

theorem always_look (hrefl : ∀ users, E users users) (f : Users → Except ApiError α) :
    Prog.Always (OnUsers E) (look f) := Prog.always_read (fun s => hrefl s.users) _

theorem always_write {f : Users → α × Users} (h : ∀ users, E users (f users).2) :
    Prog.Always (OnUsers E) (write f) :=
  .step (fun s => h s.users) fun _ => .done _

theorem write_thread {R : ApiStore → ApiStore → Prop} [IsPreorder ApiStore R] {s s' : ApiStore}
    {steps : List (ApiStore × ApiStore)} {f : Users → α × Users} {a : α}
    (h : Thread R (write f) s steps (.done (.ok a)) s') :
    ∃ t, steps = [(t, t.setUsers (f t.users).2)] := by
  obtain ⟨t, -, -, hsteps, -⟩ := h.of_call
  exact ⟨t, hsteps⟩

theorem always_insert {f : Users → Option Users} (hrefl : ∀ users, E users users)
    (h : ∀ users users', f users = some users' → E users users') :
    Prog.Always (OnUsers E) (Handler.insert f) := by
  apply Prog.always_call fun s => hrefl s.users
  intro s _ s' hs
  split at hs
  · next users' hf =>
    cases hs
    exact h s.users users' hf
  · cases hs

theorem always_deleteRow (hrefl : ∀ users, E users users) (table : OwnedTable) (id : String) :
    Prog.Always (OnUsers E) (Handler.deleteRow table id) := by
  refine .step (fun s => ?_) fun _ => .done _
  show E s.users (s.deleteRow table id).users
  rw [ApiStore.users_deleteRow]
  exact hrefl s.users

theorem always_each {body : OwnedRow → Handler Unit}
    (h : ∀ row, Prog.Always (OnUsers E) (body row)) (rows : List OwnedRow) :
    Prog.Always (OnUsers E) (each body rows) := by
  induction rows with
  | nil => exact .done _
  | cons row rows ih => exact (h row).bind fun _ => ih

theorem always_deleteOwned (hrefl : ∀ users, E users users) (username : String)
    (table : OwnedTable) : Prog.Always (OnUsers E) (deleteOwned username table) :=
  (Prog.always_read (fun s => hrefl s.users) _).bind fun _ =>
    always_each (fun row => always_deleteRow hrefl table row.id) _

theorem always_throttle (hrefl : ∀ users, E users users) (call : Core.LoginCall) :
    Prog.Always (OnUsers E) (app.throttle call) :=
  .step (fun s => hrefl s.users) fun _ => .done _

theorem always_optionally {x : Option α} {f : α → Handler Unit}
    (h : ∀ a, x = some a → Prog.Always (OnUsers E) (f a)) :
    Prog.Always (OnUsers E) (Container.optionally x f) := by
  cases x with
  | none => exact .done _
  | some a => exact h a rfl

end

section
variable {Token : Type} (app : Container Token)

/-- What one step of a request does to the users. -/
def Request.Effect (request : Request Token) (users users' : Users) : Prop :=
  users' = users ∨ match request with
    | .login .. | .getMe .. | .listUsers .. => False
    | .logout now creds => ∃ username version,
        app.tokenSubject now creds.revoked = some (username, version) ∧
        users' = (users.incrementTokenVersion username).2
    | .createUser _ _ req _ nowStr => ∃ passwordHash,
        users.createUser req.username passwordHash req.role.value nowStr = some users'
    | .deleteUser _ _ username => users' = (users.deleteUser username).2
    | .updateUser _ _ username req _ =>
        (∃ role ∈ req.role, users' = (users.demoteIfNotLastAdmin username role.value).2 ∨
          users' = (users.updateRole username role.value).2) ∨
        req.password.isSome = true ∧ (users' = (users.incrementTokenVersion username).2 ∨
          ∃ passwordHash, users' = (users.updatePassword username passwordHash).2)
    | .initializeStore adminUser _ _ nowStr => ∃ passwordHash,
        users' = users.seedAdmin adminUser passwordHash nowStr

theorem effect_refl (request : Request Token) (users : Users) :
    request.Effect app users users := Or.inl rfl

theorem login_effect (req : LoginRequest) (clientIp : String) (clock : LoginClock) :
    Prog.Always (OnUsers ((Request.login req clientIp clock).Effect app))
      (app.login req clientIp clock) := by
  have hrefl := effect_refl app (.login req clientIp clock)
  refine (always_throttle hrefl _).bind fun _ => (always_look hrefl _).bind fun record => ?_
  cases record with
  | none => exact (always_throttle hrefl _).bind fun _ => always_lift _
  | some record =>
    dsimp only
    split
    · exact (always_throttle hrefl _).bind fun _ => .done _
    · exact (always_throttle hrefl _).bind fun _ => always_lift _

theorem logout_effect (now : ℤ) (creds : Credentials Token) :
    Prog.Always (OnUsers ((Request.logout now creds).Effect app)) (app.logout now creds) := by
  unfold Container.logout
  split
  · exact .done _
  · next username version hsubject =>
    refine (always_write fun users => ?_).bind fun _ => .done _
    exact Or.inr ⟨username, version, hsubject, rfl⟩

theorem createUser_effect (now : ℤ) (creds : Credentials Token) (req : UserCreateRequest)
    (salt nowStr : String) :
    Prog.Always (OnUsers ((Request.createUser now creds req salt nowStr).Effect app))
      (app.createUser now creds req salt nowStr) := by
  have hrefl := effect_refl app (.createUser now creds req salt nowStr)
  refine (always_look hrefl _).bind fun _ => (always_look hrefl _).bind fun _ =>
    (always_lift _).bind fun _ => (always_lift _).bind fun hashed => ?_
  refine (always_insert hrefl fun users users' h => Or.inr ⟨hashed, h⟩).bind fun _ => ?_
  refine (always_look hrefl _).bind fun newUser => ?_
  cases newUser with
  | none => exact always_lift _
  | some newUser => exact (always_lift _).bind fun _ => .done _

theorem deleteUser_effect (now : ℤ) (creds : Credentials Token) (username : String) :
    Prog.Always (OnUsers ((Request.deleteUser now creds username).Effect app))
      (app.deleteUser now creds username) := by
  have hrefl := effect_refl app (.deleteUser now creds username)
  have howned := always_deleteOwned hrefl username
  refine (always_look hrefl _).bind fun _ => (always_lift _).bind fun _ =>
    (always_look hrefl _).bind fun _ => (always_lift _).bind fun _ =>
    (howned .runs).bind fun _ => (howned .testProfiles).bind fun _ =>
    (howned .testSchedules).bind fun _ => (howned .credentials).bind fun _ =>
    (howned .suites).bind fun _ => ?_
  exact (always_write fun users => Or.inr rfl).bind fun _ => .done _

theorem updateUser_effect (now : ℤ) (creds : Credentials Token) (username : String)
    (req : UserUpdateRequest) (salt : String) :
    Prog.Always (OnUsers ((Request.updateUser now creds username req salt).Effect app))
      (app.updateUser now creds username req salt) := by
  have hrefl := effect_refl app (.updateUser now creds username req salt)
  refine (always_look hrefl _).bind fun adminUser => (always_lift _).bind fun _ =>
    (always_look hrefl _).bind fun existing => ?_
  cases existing with
  | none => exact always_lift _
  | some existing =>
    refine (always_optionally fun role hrole => ?_).bind fun _ =>
      (always_optionally fun password hpassword => ?_).bind fun _ =>
      (always_optionally fun role hrole => ?_).bind fun _ =>
      (always_lift _).bind fun _ => .done _
    · obtain ⟨hreq, -⟩ := Option.filter_eq_some_iff.mp hrole
      refine (always_lift _).bind fun _ => (always_write fun users => ?_).bind fun _ =>
        always_lift _
      exact Or.inr (Or.inl ⟨role, hreq, Or.inl rfl⟩)
    · have hsome : req.password.isSome = true := by rw [hpassword, Option.isSome_some]
      refine (always_lift _).bind fun hashed => (always_write fun users => ?_).bind fun _ =>
        (always_write fun users => ?_).bind fun _ => .done _
      · exact Or.inr (Or.inr ⟨hsome, Or.inr ⟨hashed, rfl⟩⟩)
      · exact Or.inr (Or.inr ⟨hsome, Or.inl rfl⟩)
    · have hreq : req.role = some role := by
        split at hrole
        · cases hrole
        · exact hrole
      refine (always_write fun users => ?_).bind fun _ => .done _
      exact Or.inr (Or.inl ⟨role, hreq, Or.inr rfl⟩)

variable {app} in
/-- A start leaves the store alone if somebody is in it, and else adds an administrator. -/
theorem seedStore_eq_ok {adminUser adminPassword salt nowStr : String} {t t' : ApiStore}
    {reply : Reply Token}
    (h : app.seedStore adminUser adminPassword salt nowStr t = .ok (reply, t')) :
    ∃ passwordHash, t'.users = t.users.seedAdmin adminUser passwordHash nowStr := by
  unfold Container.seedStore at h
  split at h
  · obtain ⟨hashed, -, h⟩ := bind_eq_ok.mp h
    cases h
    exact ⟨hashed, rfl⟩
  · next hsome =>
    cases h
    exact ⟨"", by rw [Users.seedAdmin, if_neg hsome]⟩

theorem initializeStore_effect (adminUser adminPassword salt nowStr : String) :
    Prog.Always
      (OnUsers ((Request.initializeStore adminUser adminPassword salt nowStr).Effect app))
      (app.initializeStore adminUser adminPassword salt nowStr) :=
  Prog.always_call (fun s => effect_refl app _ s.users) fun _ _ _ h => Or.inr (seedStore_eq_ok h)

/-- However a request is handled, its steps have the effects of the request. -/
theorem handler_effect (request : Request Token) :
    Prog.Always (OnUsers (request.Effect app)) (request.handler app) := by
  cases request with
  | login req clientIp clock => exact login_effect app req clientIp clock
  | logout now creds => exact logout_effect app now creds
  | getMe now creds => exact (always_look (effect_refl app _) _).bind fun _ => .done _
  | createUser now creds req salt nowStr => exact createUser_effect app now creds req salt nowStr
  | listUsers now creds =>
    exact (always_look (effect_refl app _) _).bind fun _ =>
      (always_look (effect_refl app _) _).bind fun _ => (always_lift _).bind fun _ => .done _
  | deleteUser now creds username => exact deleteUser_effect app now creds username
  | updateUser now creds username req salt =>
    exact updateUser_effect app now creds username req salt
  | initializeStore adminUser adminPassword salt nowStr =>
    exact initializeStore_effect app adminUser adminPassword salt nowStr

variable {app} {request : Request Token} {users users' : Users}

/-- Every effect is a write of one account. -/
theorem Request.Effect.keeps (h : request.Effect app users users') :
    ∃ username, Users.Keeps username users users' := by
  rcases h with rfl | h
  · exact ⟨"", Users.Keeps.refl _ _⟩
  · cases request with
    | login | getMe | listUsers => exact h.elim
    | logout now creds =>
      obtain ⟨username, _, -, rfl⟩ := h
      exact ⟨username, Users.keeps_incrementTokenVersion⟩
    | createUser =>
      obtain ⟨_, hcreate⟩ := h
      exact ⟨_, Users.keeps_createUser hcreate⟩
    | deleteUser _ _ username =>
      cases h
      exact ⟨username, Users.keeps_deleteUser⟩
    | updateUser _ _ username req _ =>
      refine ⟨username, ?_⟩
      rcases h with ⟨role, -, rfl | rfl⟩ | ⟨-, rfl | ⟨passwordHash, rfl⟩⟩
      · exact Users.keeps_demoteIfNotLastAdmin _
      · exact Users.keeps_updateRole _
      · exact Users.keeps_incrementTokenVersion
      · exact Users.keeps_updatePassword passwordHash
    | initializeStore adminUser =>
      obtain ⟨_, rfl⟩ := h
      exact ⟨adminUser, Users.keeps_seedAdmin⟩

/-- Nobody has to be added for an administrator to be there. -/
def Ruled (users users' : Users) : Prop :=
  (users.HasAdmin → users'.HasAdmin) ∧ (users.Administered → users'.Administered)

theorem ruled_of_hasAdmin (h : request.Effect app users users') (hadmin : users.HasAdmin) :
    Ruled users users' := by
  obtain ⟨_, hkeeps⟩ := h.keeps
  exact ⟨hkeeps.hasAdmin, fun _ => Or.inr (hkeeps.hasAdmin hadmin)⟩

def Request.creates : Request Token → Bool
  | .createUser .. => true
  | _ => false

/-- Only a request to create a user adds to an empty table, and the start of a process, which adds
an administrator. -/
theorem Request.Effect.ruled (h : request.Effect app users users')
    (hcreate : request.creates = false) : Ruled users users' := by
  obtain ⟨_, hkeeps⟩ := h.keeps
  refine ⟨hkeeps.hasAdmin, fun hruled => ?_⟩
  rcases hruled with hempty | hadmin
  · rcases h with rfl | h
    · exact Or.inl hempty
    · cases request with
      | login | getMe | listUsers => exact h.elim
      | createUser => cases hcreate
      | logout now creds =>
        obtain ⟨_, _, -, rfl⟩ := h
        exact Or.inl (List.map_eq_nil_iff.mpr hempty)
      | deleteUser =>
        cases h
        refine Or.inl (List.filter_eq_nil_iff.mpr ?_)
        rw [hempty]
        exact fun _ hrow => absurd hrow List.not_mem_nil
      | updateUser =>
        rcases h with ⟨_, -, rfl | rfl⟩ | ⟨-, rfl | ⟨_, rfl⟩⟩ <;>
          exact Or.inl (List.map_eq_nil_iff.mpr hempty)
      | initializeStore =>
        obtain ⟨_, rfl⟩ := h
        exact Or.inr (Users.Administered.hasAdmin_seedAdmin (Or.inl hempty))
  · exact Or.inr (hkeeps.hasAdmin hadmin)

instance : IsPreorder Users Ruled where
  refl _ := ⟨id, id⟩
  trans _ _ _ h h' := ⟨h'.1 ∘ h.1, h'.2 ∘ h.2⟩

/-- A user is created by a request that has found an administrator. -/
theorem createUser_guarantees (now : ℤ) (creds : Credentials Token) (req : UserCreateRequest)
    (salt nowStr : String) (s : ApiStore) :
    Prog.Guarantees (OnUsers Ruled) (app.createUser now creds req salt nowStr) s := by
  have heffect := createUser_effect app now creds req salt nowStr
  apply Prog.Guarantees.bind
  · exact (Prog.quiet_read _).guarantees (fun t => refl_of (OnUsers Ruled) t) s
  · intro first user t hthread
    obtain ⟨u, -, hut, -, hlook⟩ := hthread.of_read
    have hadmin : t.users.HasAdmin := hut.1 (Container.hasAdmin_of_currentAdmin hlook)
    apply (heffect.of_read_bind hlook).guarantees_of (I := fun s => s.users.HasAdmin) _ _ hadmin
    · exact fun _ _ hst => hst.1
    · exact fun _ _ hs hst => ruled_of_hasAdmin hst hs

theorem handler_guarantees (request : Request Token) (s : ApiStore) :
    Prog.Guarantees (OnUsers Ruled) (request.handler app) s := by
  cases request with
  | createUser now creds req salt nowStr => exact createUser_guarantees now creds req salt nowStr s
  | _ => exact (handler_effect app _).guarantees (fun _ _ h => h.ruled rfl) s

end

section
variable {Token ι : Type} [DecidableEq ι] {app : Container Token} {requests : ι → Request Token}
  {s : ApiStore} {c c' : Config ι ApiStore ApiError (Reply Token)} {events : List (Event ι ApiStore)}

/-- The requests, none of them handled yet, over a store. -/
def Arrived (app : Container Token) (requests : ι → Request Token) (s : ApiStore) :
    Config ι ApiStore ApiError (Reply Token) :=
  ⟨s, fun i => (requests i).handler app⟩

omit [DecidableEq ι] in
theorem progs_arrived (i : ι) :
    (Arrived app requests s).progs i = (requests i).handler app := rfl

omit [DecidableEq ι] in
theorem others_ruled (s t : ApiStore) (h : Others s t) : OnUsers Ruled s t := by
  have hsame : t.users = s.users := h
  rw [OnUsers, hsame]
  exact ⟨id, id⟩

/-- However the requests interleave, from a store that is empty or has an administrator: it never
has users without an administrator among them, after the start of a process it has one, and once it
has one it has one forever. Requests to delete or demote two last administrators at the same time
are among the interleavings. -/
theorem administrator_remains (hs : s.users.Administered)
    (hrun : Run Others (Arrived app requests s) events c) :
    c.store.users.Administered ∧
    (∀ i adminUser adminPassword salt nowStr reply,
      requests i = .initializeStore adminUser adminPassword salt nowStr →
      c.progs i = .done (.ok reply) → c.store.users.HasAdmin) ∧
    ∀ events' c', Run Others c events' c' → c.store.users.HasAdmin → c'.store.users.HasAdmin := by
  have hstart : ∀ i, Prog.Guarantees (OnUsers Ruled) ((Arrived app requests s).progs i) s :=
    fun i => handler_guarantees (requests i) s
  obtain ⟨hruled, hprogs⟩ := hrun.related hstart others_ruled
  refine ⟨hruled.2 hs, ?_, fun events' c' hrun' => (hrun'.related hprogs others_ruled).1.1⟩
  intro i adminUser adminPassword salt nowStr reply hi hdone
  have hthread := hrun.thread hstart others_ruled i
  rw [hdone, progs_arrived, hi] at hthread
  obtain ⟨t, hst, htc, -, hanswer⟩ := hthread.of_call
  cases hseed : app.seedStore adminUser adminPassword salt nowStr t with
  | error e =>
    rw [hseed] at hanswer
    cases hanswer
  | ok answer =>
    rw [Prog.written_of_ok hseed] at htc
    obtain ⟨_, husers⟩ := seedStore_eq_ok hseed
    apply htc.1
    rw [husers]
    exact Users.Administered.hasAdmin_seedAdmin (hst.2 hs)

end

/-- Hashes that spell the password out, and tokens that are their payload. -/
def plainApp : Container TokenPayload where
  bcrypt := ⟨fun password salt => some (salt ++ password),
    fun password hashed => some (hashed = "salt" ++ password)⟩
  jwt := ⟨fun payload _ _ => payload,
    fun now payload _ _ => if payload.exp.all (now < · * 1000000) then some payload else none⟩
  settings := ⟨"secret", "HS256", 1440⟩
  loginThrottle := {}

/-- Nothing is stored. -/
def emptyStore : ApiStore where
  users := ⟨[], List.nodup_nil⟩
  owned _ := ⟨[], List.nodup_nil⟩
  attempts := OrderedDict.empty

def startRoot : Request TokenPayload := .initializeStore "root" "long enough" "salt" "2026-01-01"

/-- Two administrators. -/
def twoAdmins : ApiStore where
  users := ⟨[⟨"root", "saltlong enough", "admin", "2026-01-01", 0⟩,
    ⟨"ada", "saltpassword", "admin", "2026-01-02", 0⟩], by decide⟩
  owned _ := ⟨[], List.nodup_nil⟩
  attempts := OrderedDict.empty

/-- The token of an administrator in the header. -/
def adminCredentials (username : String) : Credentials TokenPayload where
  bearer := some (plainApp.createAccessToken 0 username "admin" 0)
  cookie := none

/-- Each of the two demotes the other, and each deletes the other. -/
def adminsApart : ℕ → Request TokenPayload
  | 0 => .updateUser 0 (adminCredentials "root") "ada" { role := some .user } "salt"
  | 1 => .updateUser 0 (adminCredentials "ada") "root" { role := some .user } "salt"
  | 2 => .deleteUser 0 (adminCredentials "root") "ada"
  | _ => .deleteUser 0 (adminCredentials "ada") "root"

/-- All have passed their checks. -/
def checksPassed (first second : ℕ) : Config ℕ ApiStore ApiError (Reply TokenPayload) :=
  (play [first, second, first, second] (Arrived plainApp adminsApart twoAdmins)).2

/-- The demotion that comes second is refused. -/
example : (play [0, 1] (checksPassed 0 1)).2.progs 1 =
    .done (.error (.http 400 "Cannot demote the last remaining admin." [])) := rfl

theorem administrator_remains_root :
    (play [0] (Arrived plainApp (fun _ : ℕ => startRoot) emptyStore)).2.store.users.HasAdmin ∧
    (play [0, 1] (checksPassed 0 1)).2.store.users.HasAdmin ∧
    (play (List.replicate 6 2 ++ List.replicate 6 3) (checksPassed 2 3)).2.store.users.HasAdmin := by
  have hadmins : twoAdmins.users.Administered := by decide
  have hstart := run_play Others [0] (Arrived plainApp (fun _ : ℕ => startRoot) emptyStore)
  refine ⟨(administrator_remains (Or.inl rfl) hstart).2.1 0 _ _ _ _ .started rfl rfl,
    (administrator_remains hadmins (run_play Others [0, 1, 0, 1] _)).2.2 _ _
      (run_play Others [0, 1] _) ?_,
    (administrator_remains hadmins (run_play Others [2, 3, 2, 3] _)).2.2 _ _
      (run_play Others (List.replicate 6 2 ++ List.replicate 6 3) _) ?_⟩
  · decide
  · decide

/-- An administrator, and a user with a run. -/
def staffStore : ApiStore where
  users := ⟨[⟨"root", "saltlong enough", "admin", "2026-01-01", 0⟩,
    ⟨"ada", "saltpassword", "user", "2026-01-02", 0⟩], by decide⟩
  owned
    | .runs => ⟨[⟨"run-1", "ada", none⟩], by decide⟩
    | _ => ⟨[], List.nodup_nil⟩
  attempts := OrderedDict.empty

def rootCredentials : Credentials TokenPayload := adminCredentials "root"

end QaRunner.Accounts
