import QaRunner.Adapters.SqliteUsers
import QaRunner.Core.LoginThrottle

/-! Passwords, access tokens, and the user that a token stands for. Hashing and signing are the
libraries' and are taken as parameters. -/
namespace QaRunner.Accounts

/-- What a request ends with when it does not succeed: a response that it chose, or an exception
that the server answers with an internal error. -/
inductive ApiError where
  | http (status : ℕ) (detail : String) (headers : List (String × String))
  | integrityError
  | valueError
  | overflowError
  | keyError
  /-- The response does not have the declared model. -/
  | responseValidation
  deriving DecidableEq

/-- `bcrypt`, for the salt that it draws; `none` where it raises. -/
structure Bcrypt where
  hashpw : String → String → Option String
  checkpw : String → String → Option Bool

def Bcrypt.hashPassword (bcrypt : Bcrypt) (password salt : String) : Except ApiError String :=
  match bcrypt.hashpw password salt with
  | some hashed => .ok hashed
  | none => .error .valueError

/-- Verify a password against a stored hash; a malformed hash verifies nothing. -/
def Bcrypt.verifyPassword (bcrypt : Bcrypt) (password hashed : String) : Bool :=
  (bcrypt.checkpw password hashed).getD false

/-- A decoded token; a missing entry is `none`. `exp` is in epoch seconds. -/
structure TokenPayload where
  sub : Option String
  role : Option String
  exp : Option ℤ
  tokenVersion : Option ℤ
  deriving DecidableEq

/-- The library that signs tokens, with a key and an algorithm. Decoding looks at the clock, in
epoch microseconds, and gives `none` for an invalid token. -/
structure Jwt (Token : Type) where
  encode : TokenPayload → String → String → Token
  decode : ℤ → Token → String → List String → Option TokenPayload

structure AuthSettings where
  secretKey : String
  algorithm : String
  accessTokenExpireMinutes : ℤ

/-- What the handlers find in the application's state, apart from the store. -/
structure Container (Token : Type) where
  bcrypt : Bcrypt
  jwt : Jwt Token
  settings : AuthSettings
  loginThrottle : Core.LoginThrottle

/-- A token that decodes under its own key and algorithm decodes to what was encoded. -/
def Jwt.DecodesEncoded {Token : Type} (jwt : Jwt Token) : Prop :=
  ∀ now payload payload' key algorithm,
    jwt.decode now (jwt.encode payload key algorithm) key [algorithm] = some payload' →
      payload' = payload

/-- The bearer token of the header, and the cookie; an empty one counts as none. -/
structure Credentials (Token : Type) where
  bearer : Option Token
  cookie : Option Token

/-- The header comes first. -/
def Credentials.token {Token : Type} (creds : Credentials Token) : Option Token :=
  creds.bearer.or creds.cookie

/-- At a logout the cookie comes first. -/
def Credentials.revoked {Token : Type} (creds : Credentials Token) : Option Token :=
  creds.cookie.or creds.bearer

structure User where
  username : String
  role : UserRole
  createdAt : String
  deriving DecidableEq

namespace Container
variable {Token : Type} (app : Container Token)

def createAccessToken (now : ℤ) (username role : String) (tokenVersion : ℤ) : Token :=
  let exp := (now + app.settings.accessTokenExpireMinutes * 60000000) / 1000000
  app.jwt.encode ⟨some username, some role, some exp, some tokenVersion⟩ app.settings.secretKey
    app.settings.algorithm

def decodeAccessToken (now : ℤ) (token : Token) : Option TokenPayload :=
  app.jwt.decode now token app.settings.secretKey [app.settings.algorithm]

def unauthorized (detail : String) : ApiError := .http 401 detail [("WWW-Authenticate", "Bearer")]

/-- The username of a token, and the version that it was made for. -/
def tokenSubject (now : ℤ) (presented : Option Token) : Option (String × ℤ) :=
  match presented with
  | none => none
  | some token =>
    match app.decodeAccessToken now token with
    | none => none
    | some payload => payload.sub.map fun username => (username, payload.tokenVersion.getD 0)

/-- The current user via the token: known, and of the version that is stored. -/
def currentUser (now : ℤ) (creds : Credentials Token) (users : Users) : Except ApiError User :=
  match app.tokenSubject now creds.token with
  | none => .error (unauthorized "Could not validate credentials")
  | some (username, payloadVersion) =>
    match users.getUser username with
    | none => .error (unauthorized "User not found")
    | some record =>
      if payloadVersion ≠ record.tokenVersion then .error (unauthorized "Token has been revoked")
      else
        match UserRole.ofValue record.role with
        | none => .error .valueError
        | some role => .ok ⟨record.username, role, record.createdAt⟩

def currentAdmin (now : ℤ) (creds : Credentials Token) (users : Users) : Except ApiError User :=
  match app.currentUser now creds users with
  | .error e => .error e
  | .ok user =>
    if user.role ≠ .admin then .error (.http 403 "Requires Admin role" []) else .ok user

variable {app} {now : ℤ} {creds : Credentials Token} {users : Users} {user : User}

theorem currentUser_eq_ok (h : app.currentUser now creds users = .ok user) :
    ∃ payloadVersion row, app.tokenSubject now creds.token = some (user.username, payloadVersion) ∧
      users.get user.username = some row ∧ row.tokenVersion = payloadVersion ∧
      row.role = user.role.value := by
  unfold currentUser at h
  split at h
  · cases h
  · next username payloadVersion hsubject =>
    split at h
    · cases h
    · next record hrecord =>
      split at h
      · cases h
      · next hversion =>
        split at h
        · cases h
        · next role hrole =>
          cases h
          have hname : record.username = username := KeyedTable.key_of_get hrecord
          subst hname
          exact ⟨payloadVersion, record, hsubject, hrecord, (not_not.mp hversion).symm,
            (UserRole.ofValue_eq_some.mp hrole).symm⟩

theorem currentAdmin_eq_ok (h : app.currentAdmin now creds users = .ok user) :
    app.currentUser now creds users = .ok user ∧ user.role = .admin := by
  unfold currentAdmin at h
  split at h
  · cases h
  · next user' huser =>
    split at h
    · cases h
    · next hadmin =>
      cases h
      exact ⟨huser, not_not.mp hadmin⟩

/-- Who passes for an administrator is one in the store. -/
theorem hasAdmin_of_currentAdmin (h : app.currentAdmin now creds users = .ok user) :
    users.HasAdmin := by
  obtain ⟨huser, hadmin⟩ := currentAdmin_eq_ok h
  obtain ⟨_, row, _, hrow, _, hrole⟩ := currentUser_eq_ok huser
  exact ⟨row, KeyedTable.mem_of_get hrow, by rw [hrole, hadmin]⟩

/-- A token of an older version than the stored one lets nobody in. -/
theorem currentUser_outdated {username : String} {version : ℤ} {row : UserRow}
    (hsubject : app.tokenSubject now creds.token = some (username, version))
    (hrow : users.get username = some row) (hversion : version < row.tokenVersion) :
    app.currentUser now creds users = .error (unauthorized "Token has been revoked") := by
  have hne : version ≠ row.tokenVersion := by omega
  simp only [currentUser, hsubject, Users.getUser, hrow, if_pos hne]

/-- What a token that was made here says when it is presented. -/
theorem tokenSubject_createAccessToken (hjwt : app.jwt.DecodesEncoded) (now issued : ℤ)
    (username role : String) (version : ℤ) :
    app.tokenSubject now (some (app.createAccessToken issued username role version)) = none ∨
      app.tokenSubject now (some (app.createAccessToken issued username role version)) =
        some (username, version) := by
  rw [tokenSubject]
  cases hdecoded : app.decodeAccessToken now
      (app.createAccessToken issued username role version) with
  | none => exact Or.inl rfl
  | some payload =>
    have hpayload := hjwt _ _ _ _ _ hdecoded
    subst hpayload
    exact Or.inr rfl

end Container
end QaRunner.Accounts
