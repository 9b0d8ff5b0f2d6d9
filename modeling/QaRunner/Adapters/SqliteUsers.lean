import QaRunner.Lib.KeyedTable
import QaRunner.Lib.Sorting
import Mathlib.Data.String.Basic

/-! The users table: the conditional updates that keep the last administrator, and token versions
that only grow. -/
namespace QaRunner.Accounts

/-- Roles for users. -/
inductive UserRole where
  | admin
  | user
  deriving DecidableEq

namespace UserRole

def value : UserRole → String
  | admin => "admin"
  | user => "user"

/-- The role with a value, as the enumeration looks it up. -/
def ofValue (value : String) : Option UserRole := [admin, user].find? (·.value = value)

theorem ofValue_eq_some {value : String} {role : UserRole} :
    ofValue value = some role ↔ role.value = value := by
  cases role <;> simp [ofValue, UserRole.value, List.find?_cons] <;> grind

end UserRole

structure UserRow where
  username : String
  passwordHash : String
  role : String
  createdAt : String
  tokenVersion : ℤ
  deriving DecidableEq

namespace UserRow

def setPasswordHash (row : UserRow) (passwordHash : String) : UserRow :=
  { row with passwordHash := passwordHash }

def setRole (row : UserRow) (role : String) : UserRow := { row with role := role }

def incrementTokenVersion (row : UserRow) : UserRow :=
  { row with tokenVersion := row.tokenVersion + 1 }

@[simp] theorem username_setPasswordHash (row : UserRow) (passwordHash : String) :
    (row.setPasswordHash passwordHash).username = row.username := rfl

@[simp] theorem username_setRole (row : UserRow) (role : String) :
    (row.setRole role).username = row.username := rfl

@[simp] theorem username_incrementTokenVersion (row : UserRow) :
    row.incrementTokenVersion.username = row.username := rfl

end UserRow

abbrev Users := KeyedTable UserRow.username

namespace Users
variable {users users' : Users} {username name role : String} {row row' : UserRow}

/-- `SELECT COUNT(*) FROM users WHERE role = 'admin'`. -/
def adminCount (users : Users) : ℕ := users.rowcount fun row => row.role = UserRole.admin.value

def getUser (users : Users) (username : String) : Option UserRow := users.get username

/-- Fails on a stored username. -/
def createUser (users : Users) (username passwordHash role nowStr : String) : Option Users :=
  if h : users.get username = none then
    some (users.push ⟨username, passwordHash, role, nowStr, 0⟩ h)
  else none

def listUsers (users : Users) : List UserRow := Sorting.sortOn (·.username) users.rows

/-- `role <> 'admin' OR (SELECT COUNT(*) ...) > 1`, for a row with the username. -/
def deletable (users : Users) (username : String) (row : UserRow) : Bool :=
  row.username = username ∧ (row.role ≠ UserRole.admin.value ∨ 1 < users.adminCount)

def deleteUser (users : Users) (username : String) : Bool × Users :=
  (0 < users.rowcount (users.deletable username), users.delete (users.deletable username))

def updatePassword (users : Users) (username passwordHash : String) : Bool × Users :=
  (0 < users.rowcount (·.username = username),
    users.update (·.username = username) (·.setPasswordHash passwordHash)
      fun row => row.username_setPasswordHash passwordHash)

/-- `role <> 'admin' OR ? = 'admin' OR (SELECT COUNT(*) ...) > 1`, for a row with the username. -/
def updatable (users : Users) (username role : String) (row : UserRow) : Bool :=
  row.username = username ∧ (row.role ≠ UserRole.admin.value ∨ role = UserRole.admin.value ∨
    1 < users.adminCount)

/-- The answer is whether the user exists, also when the last administrator was kept. -/
def updateRole (users : Users) (username role : String) : Bool × Users :=
  ((users.get username).isSome,
    users.update (users.updatable username role) (·.setRole role)
      fun row => row.username_setRole role)

/-- Bump `token_version` to invalidate all existing JWTs. -/
def incrementTokenVersion (users : Users) (username : String) : Bool × Users :=
  (0 < users.rowcount (·.username = username),
    users.update (·.username = username) (·.incrementTokenVersion)
      UserRow.username_incrementTokenVersion)

def demotable (users : Users) (username : String) (row : UserRow) : Bool :=
  row.username = username ∧ row.role = UserRole.admin.value ∧ 1 < users.adminCount

/-- Change the role only if more than one administrator remains. -/
def demoteIfNotLastAdmin (users : Users) (username newRole : String) : Bool × Users :=
  (0 < users.rowcount (users.demotable username),
    users.update (users.demotable username) (·.setRole newRole)
      fun row => row.username_setRole newRole)

/-- The seed of `initialize`: an administrator in an empty table. -/
def seedAdmin (users : Users) (adminUser passwordHash nowStr : String) : Users :=
  if users.rows = [] then
    (users.createUser adminUser passwordHash UserRole.admin.value nowStr).getD users
  else users

/-- Some administrator is stored. -/
def HasAdmin (users : Users) : Prop := ∃ row ∈ users.rows, row.role = UserRole.admin.value

/-- Nobody is stored, or an administrator is. -/
def Administered (users : Users) : Prop := users.rows = [] ∨ users.HasAdmin

instance (users : Users) : Decidable users.HasAdmin :=
  inferInstanceAs (Decidable (∃ row ∈ users.rows, row.role = UserRole.admin.value))

instance (users : Users) : Decidable users.Administered :=
  inferInstanceAs (Decidable (users.rows = [] ∨ users.HasAdmin))

/-- A row that stays keeps its version or gets a larger one. -/
def VersionKept (username : String) (users users' : Users) : Prop :=
  ∀ row row', users.get username = some row → users'.get username = some row' →
    row.tokenVersion ≤ row'.tokenVersion

/-- The other users' rows are as they were. -/
def Elsewhere (username : String) (users users' : Users) : Prop :=
  ∀ name, name ≠ username → users'.get name = users.get name

section
variable {p : UserRow → Bool} {f : UserRow → UserRow}
  {hf : ∀ row, (f row).username = row.username}

/-- Two administrators have different usernames, so one of them has another than the given. -/
theorem exists_other_admin (h : 1 < users.adminCount) (username : String) :
    ∃ row ∈ users.rows, row.role = UserRole.admin.value ∧ row.username ≠ username := by
  by_contra hnone
  push Not at hnone
  rw [adminCount, KeyedTable.rowcount, List.countP_eq_length_filter] at h
  have hadmin : ∀ row ∈ users.rows.filter (·.role = UserRole.admin.value),
      row ∈ users.rows ∧ row.username = username := by
    intro row hrow
    obtain ⟨hmem, hrole⟩ := List.mem_filter.mp hrow
    exact ⟨hmem, hnone row hmem (of_decide_eq_true hrole)⟩
  have hnodup : (users.rows.filter (·.role = UserRole.admin.value)).Nodup :=
    (List.Nodup.of_map _ users.primary).filter _
  rcases hrows : users.rows.filter (·.role = UserRole.admin.value) with _ | ⟨a, _ | ⟨b, rest⟩⟩
  · simp [hrows] at h
  · simp [hrows] at h
  · rw [hrows] at hadmin hnodup
    obtain ⟨ha, haname⟩ := hadmin a (by simp)
    obtain ⟨hb, hbname⟩ := hadmin b (by simp)
    have hab : a = b := Keyed.eq_of_key users.primary ha hb (haname.trans hbname.symm)
    simp [hab] at hnodup

/-- An update of one user that takes the role of an administrator only beside another. -/
theorem HasAdmin.update (h : users.HasAdmin) (hp : ∀ row, p row = true → row.username = username)
    (hkeep : ∀ row, p row = true → row.role = UserRole.admin.value →
      (f row).role = UserRole.admin.value ∨ 1 < users.adminCount) :
    HasAdmin (users.update p f hf) := by
  obtain ⟨row, hrow, hadmin⟩ := h
  by_cases hmatch : p row = true
  · rcases hkeep row hmatch hadmin with hstays | hmany
    · exact ⟨f row, List.mem_map.mpr ⟨row, hrow, if_pos hmatch⟩, hstays⟩
    · obtain ⟨other, hother, hotheradmin, hname⟩ := exists_other_admin hmany username
      have hout : ¬ p other = true := fun hpo => hname (hp other hpo)
      exact ⟨other, List.mem_map.mpr ⟨other, hother, if_neg hout⟩, hotheradmin⟩
  · exact ⟨row, List.mem_map.mpr ⟨row, hrow, if_neg hmatch⟩, hadmin⟩

theorem HasAdmin.delete (h : users.HasAdmin) (hp : ∀ row, p row = true → row.username = username)
    (hkeep : ∀ row, p row = true → row.role = UserRole.admin.value → 1 < users.adminCount) :
    HasAdmin (users.delete p) := by
  obtain ⟨row, hrow, hadmin⟩ := h
  cases hmatch : p row with
  | true =>
    obtain ⟨other, hother, hotheradmin, hname⟩ :=
      exists_other_admin (hkeep row hmatch hadmin) username
    have hout : p other = false := Bool.eq_false_iff.mpr fun hpo => hname (hp other hpo)
    exact ⟨other, KeyedTable.mem_delete.mpr ⟨hother, hout⟩, hotheradmin⟩
  | false => exact ⟨row, KeyedTable.mem_delete.mpr ⟨hrow, hmatch⟩, hadmin⟩

theorem versionKept_update (hv : ∀ row, row.tokenVersion ≤ (f row).tokenVersion) :
    VersionKept name users (users.update p f hf) := by
  intro row row' hrow hrow'
  rw [KeyedTable.get_update, hrow, Option.map_some, Option.some.injEq] at hrow'
  subst hrow'
  split
  · exact hv row
  · exact le_refl _

theorem versionKept_delete : VersionKept name users (users.delete p) := by
  intro row row' hrow hrow'
  rw [KeyedTable.get_delete, hrow, Option.filter_some] at hrow'
  split at hrow'
  · cases hrow'
    exact le_refl _
  · cases hrow'

theorem elsewhere_update (hp : ∀ row, p row = true → row.username = username) :
    Elsewhere username users (users.update p f hf) := by
  intro name hname
  rw [KeyedTable.get_update]
  cases hrow : users.get name with
  | none => rfl
  | some row =>
    have hout : ¬ p row = true := fun hpr =>
      hname ((KeyedTable.key_of_get hrow).symm.trans (hp row hpr))
    rw [Option.map_some, if_neg hout]

theorem elsewhere_delete (hp : ∀ row, p row = true → row.username = username) :
    Elsewhere username users (users.delete p) := by
  intro name hname
  rw [KeyedTable.get_delete]
  cases hrow : users.get name with
  | none => rfl
  | some row =>
    have hout : p row = false := Bool.eq_false_iff.mpr fun hpr =>
      hname ((KeyedTable.key_of_get hrow).symm.trans (hp row hpr))
    simp [hout]

end

/-- What a write of one account keeps. -/
structure Keeps (username : String) (users users' : Users) : Prop where
  hasAdmin : users.HasAdmin → users'.HasAdmin
  versionKept : ∀ name, VersionKept name users users'
  elsewhere : Elsewhere username users users'

theorem Keeps.refl (username : String) (users : Users) : Keeps username users users where
  hasAdmin h := h
  versionKept name row row' hrow hrow' := by
    rw [hrow] at hrow'
    cases hrow'
    exact le_refl _
  elsewhere _ _ := rfl

section
variable {p : UserRow → Bool} {f : UserRow → UserRow}

theorem keeps_update (hf : ∀ row, (f row).username = row.username)
    (hp : ∀ row, p row = true → row.username = username)
    (hadmin : ∀ row, p row = true → row.role = UserRole.admin.value →
      (f row).role = UserRole.admin.value ∨ 1 < users.adminCount)
    (hversion : ∀ row, row.tokenVersion ≤ (f row).tokenVersion) :
    Keeps username users (users.update p f hf) where
  hasAdmin h := h.update hp hadmin
  versionKept _ := versionKept_update hversion
  elsewhere := elsewhere_update hp

theorem keeps_delete (hp : ∀ row, p row = true → row.username = username)
    (hadmin : ∀ row, p row = true → row.role = UserRole.admin.value → 1 < users.adminCount) :
    Keeps username users (users.delete p) where
  hasAdmin h := h.delete hp hadmin
  versionKept _ := versionKept_delete
  elsewhere := elsewhere_delete hp

end

theorem deletable_iff : users.deletable username row = true ↔ row.username = username ∧
    (row.role ≠ UserRole.admin.value ∨ 1 < users.adminCount) := decide_eq_true_iff

theorem updatable_iff : users.updatable username role row = true ↔ row.username = username ∧
    (row.role ≠ UserRole.admin.value ∨ role = UserRole.admin.value ∨ 1 < users.adminCount) :=
  decide_eq_true_iff

theorem demotable_iff : users.demotable username row = true ↔ row.username = username ∧
    row.role = UserRole.admin.value ∧ 1 < users.adminCount := decide_eq_true_iff

theorem keeps_deleteUser : Keeps username users (users.deleteUser username).2 :=
  keeps_delete (fun _ hp => (deletable_iff.mp hp).1)
    fun _ hp hadmin => (deletable_iff.mp hp).2.resolve_left (not_not_intro hadmin)

/-- A user is gone after the deletion, unless it was an administrator and there was no other. -/
theorem get_deleteUser : (users.deleteUser username).2.get username = none ∨
    ∃ row, (users.deleteUser username).2.get username = some row ∧
      row.role = UserRole.admin.value ∧ users.adminCount ≤ 1 := by
  rw [deleteUser, KeyedTable.get_delete]
  cases hrow : users.get username with
  | none => exact Or.inl rfl
  | some row =>
    rw [Option.filter_some]
    split
    · next hkept =>
      have hnot : ¬ users.deletable username row = true := by simpa using hkept
      rw [deletable_iff, KeyedTable.key_of_get hrow] at hnot
      push Not at hnot
      obtain ⟨hadmin, hcount⟩ := hnot rfl
      exact Or.inr ⟨row, rfl, hadmin, hcount⟩
    · exact Or.inl rfl

theorem keeps_updatePassword (passwordHash : String) :
    Keeps username users (users.updatePassword username passwordHash).2 :=
  keeps_update (fun row => row.username_setPasswordHash passwordHash)
    (fun _ hp => of_decide_eq_true hp) (fun _ _ hadmin => Or.inl hadmin)
    fun row => le_refl row.tokenVersion

theorem keeps_updateRole (role : String) :
    Keeps username users (users.updateRole username role).2 :=
  keeps_update (fun row => row.username_setRole role) (fun _ hp => (updatable_iff.mp hp).1)
    (fun _ hp hadmin => (updatable_iff.mp hp).2.resolve_left (not_not_intro hadmin))
    fun row => le_refl row.tokenVersion

theorem keeps_incrementTokenVersion :
    Keeps username users (users.incrementTokenVersion username).2 := by
  have hversion : ∀ row : UserRow, row.tokenVersion ≤ row.incrementTokenVersion.tokenVersion := by
    intro row
    show row.tokenVersion ≤ row.tokenVersion + 1
    omega
  exact keeps_update UserRow.username_incrementTokenVersion (fun _ hp => of_decide_eq_true hp)
    (fun _ _ hadmin => Or.inl hadmin) hversion

theorem keeps_demoteIfNotLastAdmin (newRole : String) :
    Keeps username users (users.demoteIfNotLastAdmin username newRole).2 :=
  keeps_update (fun row => row.username_setRole newRole) (fun _ hp => (demotable_iff.mp hp).1)
    (fun _ hp _ => Or.inr (demotable_iff.mp hp).2.2) fun row => le_refl row.tokenVersion

section
variable {passwordHash nowStr : String}

theorem createUser_eq_some (h : users.createUser username passwordHash role nowStr = some users') :
    users.get username = none ∧
      users'.rows = users.rows ++ [⟨username, passwordHash, role, nowStr, 0⟩] ∧
      ∀ name, users'.get name =
        if name = username then some ⟨username, passwordHash, role, nowStr, 0⟩
        else users.get name := by
  unfold createUser at h
  split at h
  · next hnew =>
    cases h
    exact ⟨hnew, rfl, fun name => KeyedTable.get_push hnew⟩
  · cases h

theorem keeps_createUser (h : users.createUser username passwordHash role nowStr = some users') :
    Keeps username users users' := by
  obtain ⟨hnew, hrows, hget⟩ := createUser_eq_some h
  refine ⟨?_, ?_, fun name hname => by rw [hget, if_neg hname]⟩
  · rintro ⟨row, hrow, hadmin⟩
    exact ⟨row, by rw [hrows]; exact List.mem_append_left _ hrow, hadmin⟩
  · intro name row row' hrow hrow'
    have hname : name ≠ username := by
      rintro rfl
      rw [hnew] at hrow
      cases hrow
    rw [hget, if_neg hname, hrow] at hrow'
    cases hrow'
    exact le_refl _

/-- In an empty table the seed is the only row; else nothing happens. -/
theorem seedAdmin_cases (users : Users) (username passwordHash nowStr : String) :
    (users.rows = [] ∧ users.createUser username passwordHash UserRole.admin.value nowStr =
      some (users.seedAdmin username passwordHash nowStr)) ∨
    (users.rows ≠ [] ∧ users.seedAdmin username passwordHash nowStr = users) := by
  unfold seedAdmin
  split
  · next hempty =>
    have hnew : users.get username = none := by
      rw [KeyedTable.get, hempty, List.find?_nil]
    refine Or.inl ⟨hempty, ?_⟩
    rw [createUser, dif_pos hnew, Option.getD_some]
  · next hsome => exact Or.inr ⟨hsome, rfl⟩

theorem keeps_seedAdmin : Keeps username users (users.seedAdmin username passwordHash nowStr) := by
  rcases seedAdmin_cases users username passwordHash nowStr with ⟨-, hcreate⟩ | ⟨-, hsame⟩
  · exact keeps_createUser hcreate
  · rw [hsame]
    exact Keeps.refl _ _

/-- After the seed an administrator is stored, if nobody or an administrator was. -/
theorem Administered.hasAdmin_seedAdmin (h : users.Administered) :
    HasAdmin (users.seedAdmin username passwordHash nowStr) := by
  rcases seedAdmin_cases users username passwordHash nowStr with ⟨-, hcreate⟩ | ⟨hsome, hsame⟩
  · obtain ⟨-, hrows, -⟩ := createUser_eq_some hcreate
    exact ⟨_, by rw [hrows]; exact List.mem_append_right _ (List.mem_singleton_self _), rfl⟩
  · rw [hsame]
    exact h.resolve_left hsome

end

end Users
end QaRunner.Accounts
