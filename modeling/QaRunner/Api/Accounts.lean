import QaRunner.Core.Auth
import QaRunner.Lib.Guarded
import QaRunner.Lib.Interleaving

/-! The requests about accounts, each a program whose store accesses interleave with those of the
others. -/
namespace QaRunner.Accounts
open Guarded Interleaving

/-- The tables whose rows belong to the user that created them. -/
inductive OwnedTable where
  | runs
  | testProfiles
  | testSchedules
  | credentials
  | suites
  deriving DecidableEq

/-- A row of such a table; `profileId` is that of a schedule. -/
structure OwnedRow where
  id : String
  createdBy : String
  profileId : Option String := none
  deriving DecidableEq

/-- The tables, and the login throttle of the process. -/
structure ApiStore where
  users : Users
  owned : OwnedTable → KeyedTable OwnedRow.id
  attempts : Core.LoginAttempts

namespace ApiStore

def setUsers (s : ApiStore) (users : Users) : ApiStore := { s with users := users }

def setAttempts (s : ApiStore) (attempts : Core.LoginAttempts) : ApiStore :=
  { s with attempts := attempts }

def delete (s : ApiStore) (table : OwnedTable) (p : OwnedRow → Bool) : ApiStore :=
  { s with owned := Function.update s.owned table ((s.owned table).delete p) }

/-- With a profile its schedules go, by the foreign key. -/
def deleteRow (s : ApiStore) (table : OwnedTable) (id : String) : ApiStore :=
  match table with
  | .testProfiles =>
    (s.delete .testProfiles (·.id = id)).delete .testSchedules (·.profileId = some id)
  | table => s.delete table (·.id = id)

@[simp] theorem users_setUsers (s : ApiStore) (users : Users) :
    (s.setUsers users).users = users := rfl

@[simp] theorem owned_setUsers (s : ApiStore) (users : Users) :
    (s.setUsers users).owned = s.owned := rfl

@[simp] theorem users_setAttempts (s : ApiStore) (attempts : Core.LoginAttempts) :
    (s.setAttempts attempts).users = s.users := rfl

@[simp] theorem owned_setAttempts (s : ApiStore) (attempts : Core.LoginAttempts) :
    (s.setAttempts attempts).owned = s.owned := rfl

@[simp] theorem users_deleteRow (s : ApiStore) (table : OwnedTable) (id : String) :
    (s.deleteRow table id).users = s.users := by
  cases table <;> rfl

end ApiStore

/-- A request as it is handled: accesses of the store, with other requests between them. -/
abbrev Handler (α : Type) : Type := Prog ApiStore ApiError α

namespace Handler
variable {α : Type}

def fail (e : ApiError) : Handler α := Prog.lift (.error e)

def refuseIf (c : Prop) [Decidable c] (e : ApiError) : Handler Unit := Prog.lift (raiseIf c e)

/-- Read the users table. -/
def look (f : Users → Except ApiError α) : Handler α := Prog.read fun s => f s.users

/-- One statement on the users table that answers. -/
def write (f : Users → α × Users) : Handler α :=
  Prog.call fun s => .ok ((f s.users).1, s.setUsers (f s.users).2)

def insert (f : Users → Option Users) : Handler Unit :=
  Prog.call fun s =>
    match f s.users with
    | some users => .ok ((), s.setUsers users)
    | none => .error .integrityError

def deleteRow (table : OwnedTable) (id : String) : Handler Unit :=
  Prog.call fun s => .ok ((), s.deleteRow table id)

/-- Go through rows that were read before, in order. -/
def each (body : OwnedRow → Handler Unit) : List OwnedRow → Handler Unit
  | [] => pure ()
  | row :: rows => do
    body row
    each body rows

/-- One branch of `delete_user`: list a table and delete what the user created. -/
def deleteOwned (username : String) (table : OwnedTable) : Handler Unit := do
  let rows ← (Prog.read fun s => .ok (s.owned table).rows : Handler (List OwnedRow))
  each (fun row => deleteRow table row.id) (rows.filter (·.createdBy = username))

end Handler
open Handler

/-- A password that a request body may hold. -/
abbrev Password : Type := { password : String // 8 ≤ password.length ∧ password.length ≤ 128 }

structure LoginRequest where
  username : String
  password : String

structure UserCreateRequest where
  username : String
  password : Password
  role : UserRole := .user

structure UserUpdateRequest where
  password : Option Password := none
  role : Option UserRole := none

structure UserResponse where
  username : String
  role : UserRole
  createdAt : String
  deriving DecidableEq

/-- The response model has a role of the enumeration. -/
def UserResponse.new (username role createdAt : String) : Except ApiError UserResponse :=
  match UserRole.ofValue role with
  | some role => .ok ⟨username, role, createdAt⟩
  | none => .error .responseValidation

inductive Reply (Token : Type) where
  /-- In the body, and as the cookie. -/
  | token (accessToken : Token)
  | noContent
  | user (user : UserResponse)
  | users (users : List UserResponse)
  | deleted (username : String)
  | started
  deriving DecidableEq

/-- When a login looks at the clock: in epoch seconds for the throttle, in microseconds for the
token. -/
structure LoginClock where
  checked : ℚ
  recorded : ℚ
  issued : ℤ

namespace Container
variable {Token : Type} (app : Container Token)

def getCurrentUser (now : ℤ) (creds : Credentials Token) : Handler User :=
  look (app.currentUser now creds)

def getCurrentAdmin (now : ℤ) (creds : Credentials Token) : Handler User :=
  look (app.currentAdmin now creds)

/-- How a login goes on after a call of the throttle. -/
def throttleAnswer : Core.LoginAnswer → Except ApiError Unit
  | .returned => .ok ()
  | .lockedOut retryAfter => .error (.http 429 "Too many failed login attempts. Try again later."
      [("Retry-After", toString retryAfter)])
  | .overflowError => .error .overflowError
  | .keyError => .error .keyError

def throttle (call : Core.LoginCall) : Handler Unit :=
  .step (fun s => s.setAttempts (app.loginThrottle.perform s.attempts call).2) fun s =>
    .done (throttleAnswer (app.loginThrottle.perform s.attempts call).1)

def login (req : LoginRequest) (clientIp : String) (clock : LoginClock) :
    Handler (Reply Token) := do
  let throttleKey := req.username ++ "|" ++ clientIp
  app.throttle ⟨.check, throttleKey, clock.checked⟩
  match ← look fun users => .ok (users.getUser req.username) with
  | none =>
    app.throttle ⟨.recordFailure, throttleKey, clock.recorded⟩
    fail (.http 401 "Incorrect username or password" [])
  | some record =>
    if app.bcrypt.verifyPassword req.password record.passwordHash then
      app.throttle ⟨.recordSuccess, throttleKey, clock.recorded⟩
      return .token
        (app.createAccessToken clock.issued record.username record.role record.tokenVersion)
    else
      app.throttle ⟨.recordFailure, throttleKey, clock.recorded⟩
      fail (.http 401 "Incorrect username or password" [])

/-- Clear the cookie and revoke the token; also without one that is valid it succeeds. -/
def logout (now : ℤ) (creds : Credentials Token) : Handler (Reply Token) :=
  match app.tokenSubject now creds.revoked with
  | none => pure .noContent
  | some (username, _) => do
    let _ ← write (·.incrementTokenVersion username)
    return .noContent

def getMe (now : ℤ) (creds : Credentials Token) : Handler (Reply Token) := do
  let user ← app.getCurrentUser now creds
  return .user ⟨user.username, user.role, user.createdAt⟩

def createUser (now : ℤ) (creds : Credentials Token) (req : UserCreateRequest)
    (salt nowStr : String) : Handler (Reply Token) := do
  let _ ← app.getCurrentAdmin now creds
  let existing ← look fun users => .ok (users.getUser req.username)
  refuseIf (existing.isSome = true) (.http 400 "Username already exists" [])
  let hashed ← Prog.lift (app.bcrypt.hashPassword req.password.val salt)
  insert (·.createUser req.username hashed req.role.value nowStr)
  match ← look fun users => .ok (users.getUser req.username) with
  | none => fail (.http 500 "User was created but could not be retrieved" [])
  | some newUser =>
    let user ← Prog.lift (UserResponse.new newUser.username newUser.role newUser.createdAt)
    return .user user

def listUsers (now : ℤ) (creds : Credentials Token) : Handler (Reply Token) := do
  let _ ← app.getCurrentAdmin now creds
  let rows ← look fun users => .ok users.listUsers
  let users ← Prog.lift (rows.mapM fun row =>
    UserResponse.new row.username row.role row.createdAt)
  return .users users

/-- Delete a user; what the user created goes first. -/
def deleteUser (now : ℤ) (creds : Credentials Token) (username : String) :
    Handler (Reply Token) := do
  let adminUser ← app.getCurrentAdmin now creds
  refuseIf (username = adminUser.username) (.http 400 "You cannot delete your own account." [])
  let existing ← look fun users => .ok (users.getUser username)
  refuseIf (existing.isNone = true) (.http 404 ("User '" ++ username ++ "' not found") [])
  deleteOwned username .runs
  deleteOwned username .testProfiles
  deleteOwned username .testSchedules
  deleteOwned username .credentials
  deleteOwned username .suites
  let _ ← write (·.deleteUser username)
  return .deleted username

/-- The update takes the role of an administrator. -/
def demotes (existing : UserRow) (req : UserUpdateRequest) : Option UserRole :=
  req.role.filter fun role =>
    existing.role = UserRole.admin.value ∧ role.value ≠ UserRole.admin.value

def demote (adminUser : User) (username : String) (newRole : UserRole) : Handler Unit := do
  refuseIf (username = adminUser.username) (.http 400 "You cannot demote your own account." [])
  let demoted ← write (·.demoteIfNotLastAdmin username newRole.value)
  refuseIf (demoted = false) (.http 400 "Cannot demote the last remaining admin." [])

/-- The old tokens are invalidated after the password has changed. -/
def changePassword (username : String) (password : Password) (salt : String) : Handler Unit := do
  let hashed ← Prog.lift (app.bcrypt.hashPassword password.val salt)
  let _ ← write (·.updatePassword username hashed)
  let _ ← write (·.incrementTokenVersion username)

def changeRole (username : String) (role : UserRole) : Handler Unit := do
  let _ ← write (·.updateRole username role.value)

/-- The part that is there, if it is. -/
def optionally {α : Type} (x : Option α) (f : α → Handler Unit) : Handler Unit :=
  match x with
  | none => pure ()
  | some a => f a

def updateUser (now : ℤ) (creds : Credentials Token) (username : String) (req : UserUpdateRequest)
    (salt : String) : Handler (Reply Token) := do
  let adminUser ← app.getCurrentAdmin now creds
  refuseIf (req.password.isNone = true ∧ req.role.isNone = true)
    (.http 400 "Nothing to update: provide password and/or role." [])
  match ← look fun users => .ok (users.getUser username) with
  | none => fail (.http 404 ("User '" ++ username ++ "' not found") [])
  | some existing =>
    optionally (demotes existing req) (demote adminUser username)
    optionally req.password fun password => app.changePassword username password salt
    -- A demotion is already handled.
    optionally (if (demotes existing req).isSome then none else req.role) (changeRole username)
    let user ← Prog.lift (UserResponse.new existing.username
      (req.role.elim existing.role UserRole.value) existing.createdAt)
    return .user user

/-- The part of `initialize` that seeds the administrator. -/
def seedStore (adminUser adminPassword salt nowStr : String) (s : ApiStore) :
    Except ApiError (Reply Token × ApiStore) :=
  if s.users.rows = [] then do
    let hashed ← app.bcrypt.hashPassword adminPassword salt
    return (.started, s.setUsers (s.users.seedAdmin adminUser hashed nowStr))
  else return (.started, s)

def initializeStore (adminUser adminPassword salt nowStr : String) : Handler (Reply Token) :=
  Prog.call (app.seedStore adminUser adminPassword salt nowStr)

end Container

/-- What a client may ask for, and the start of a process. -/
inductive Request (Token : Type) where
  | login (req : LoginRequest) (clientIp : String) (clock : LoginClock)
  | logout (now : ℤ) (creds : Credentials Token)
  | getMe (now : ℤ) (creds : Credentials Token)
  | createUser (now : ℤ) (creds : Credentials Token) (req : UserCreateRequest)
      (salt nowStr : String)
  | listUsers (now : ℤ) (creds : Credentials Token)
  | deleteUser (now : ℤ) (creds : Credentials Token) (username : String)
  | updateUser (now : ℤ) (creds : Credentials Token) (username : String) (req : UserUpdateRequest)
      (salt : String)
  | initializeStore (adminUser adminPassword salt nowStr : String)

def Request.handler {Token : Type} (app : Container Token) :
    Request Token → Handler (Reply Token)
  | login req clientIp clock => app.login req clientIp clock
  | logout now creds => app.logout now creds
  | getMe now creds => app.getMe now creds
  | createUser now creds req salt nowStr => app.createUser now creds req salt nowStr
  | listUsers now creds => app.listUsers now creds
  | deleteUser now creds username => app.deleteUser now creds username
  | updateUser now creds username req salt => app.updateUser now creds username req salt
  | initializeStore adminUser adminPassword salt nowStr =>
    app.initializeStore adminUser adminPassword salt nowStr

end QaRunner.Accounts
