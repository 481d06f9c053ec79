import AssetPilot.Core.Security
import AssetPilot.Repositories.Tables

/-!
# User administration

The writing operations of `app/services/user_service.py` and self-registration
(`app/services/auth_service.py`), which is the other writer of `user`.
-/

namespace AssetPilot

open Txn
open SQLAlchemyRepository (flushed born)

/-- `UserResult`: the row without its password hash. -/
structure UserResult where
  id : UUID
  name : String
  email : String
  role : UserRole
  managerId : Option UUID
  isActive : Bool
  createdAt : Datetime
  updatedAt : Datetime
  deriving DecidableEq

namespace UserService

def _DEFAULT_PASSWORD : String := "Password123!"

def userResultFrom (user : User) : UserResult where
  id := user.id
  name := user.name
  email := user.email
  role := user.role
  managerId := user.managerId
  isActive := user.isActive
  createdAt := user.createdAt
  updatedAt := user.updatedAt

def getUserOr404 (userId : UUID) : Service User := do
  let user ← UserRepository.getById userId
  orRaise user (notFoundException "User not found.")

/-- The user that `create_user` and `register` insert. -/
def newUser (id : UUID) (name email passwordHash : String) (role : UserRole) : User where
  id := id
  name := name
  email := email
  passwordHash := some passwordHash
  role := role
  isActive := true

/-- The part that `create_user` and `register` share: the email check, the hash, the insert. -/
def insertUser (name email : String) (role : UserRole) (password : String) : Service User := do
  let existing ← UserRepository.getByEmail email
  raiseIf (existing ≠ none) (conflictException s!"A user with email '{email}' already exists.")
  let passwordHash ← hashPassword password
  let id ← uuid4 0
  UserRepository.create (newUser id name email passwordHash role)

def createUser (name email : String) (role : UserRole) : Service UserResult := do
  let created ← insertUser name email role _DEFAULT_PASSWORD
  return userResultFrom created

def changeRole (userId : UUID) (role : UserRole) : Service UserResult := do
  let user ← getUserOr404 userId
  let updated ← UserRepository.update { user with role := role }
  return userResultFrom updated

def deactivate (userId : UUID) : Service UserResult := do
  let user ← getUserOr404 userId
  let holds ← UserRepository.hasActiveDevicesOrRequests user.id
  raiseIf holds (conflictException
    "Cannot deactivate a user who currently holds a device or has an open request.")
  let updated ← UserRepository.update { user with isActive := false }
  return userResultFrom updated

def activate (userId : UUID) : Service UserResult := do
  let user ← getUserOr404 userId
  let updated ← UserRepository.update { user with isActive := true }
  return userResultFrom updated

end UserService

/-- `TokenResult`. -/
structure TokenResult where
  accessToken : String
  refreshToken : String
  tokenType : String := "bearer"
  deriving DecidableEq

namespace AuthService

def register (name email : String) (role : UserRole) (password : String) : Service TokenResult := do
  let created ← UserService.insertUser name email role password
  let accessToken ← createAccessToken 0 created.id.str created.role.value created.email
  let refreshToken ← createRefreshToken 1 created.id.str created.role.value created.email
  return { accessToken := accessToken, refreshToken := refreshToken }

end AuthService

/-! ### Inversion -/

namespace UserService

variable {ctx : Ctx} {db db' : Db} {userId : UUID} {row : UserResult}

@[simp] theorem runs_getUserOr404 {id : UUID} {user : User} :
    (getUserOr404 id).Runs ctx db user db' ↔ db.users.get? id = some user ∧ db' = db := by
  simp [getUserOr404, and_comm, eq_comm]

@[simp] theorem newUser_id {id : UUID} {name email hash : String} {role : UserRole} :
    (newUser id name email hash role).id = id := rfl

theorem runs_insertUser {name email password : String} {role : UserRole} {user : User} :
    (insertUser name email role password).Runs ctx db user db' ↔
    db.users.rows.find? (fun u => u.email = email) = none ∧
      ∃ hash, ctx.hashpw password = some hash ∧ db.users.get? (ctx.uuid4 0) = none ∧
      Model.constraints db user = .ok () ∧
      user = born ctx (newUser (ctx.uuid4 0) name email hash role) ∧ db' = db.addUser user := by
  simp [insertUser]

theorem runs_createUser {name email : String} {role : UserRole} :
    (createUser name email role).Runs ctx db row db' ↔
    ∃ user, (insertUser name email role _DEFAULT_PASSWORD).Runs ctx db user db' ∧
      row = userResultFrom user := by
  simp [createUser]

theorem runs_changeRole {role : UserRole} : (changeRole userId role).Runs ctx db row db' ↔
    ∃ user, db.users.get? userId = some user ∧
      ∃ user', user' = flushed ctx db { user with role := role } ∧ Model.constraints db user' = .ok () ∧
      row = userResultFrom user' ∧ db' = db.setUser user' := by
  simp [changeRole, and_assoc]

theorem runs_deactivate : (deactivate userId).Runs ctx db row db' ↔
    ∃ user, db.users.get? userId = some user ∧
      ((∀ i ∈ db.items.rows, i.currentOwnerId ≠ some user.id) ∧
        ∀ r ∈ db.requests.rows, r.requesterId = user.id →
          r.status ∉ UserRepository._NON_TERMINAL_REQUEST_STATUSES) ∧
      ∃ user', user' = flushed ctx db { user with isActive := false } ∧
        Model.constraints db user' = .ok () ∧
      row = userResultFrom user' ∧ db' = db.setUser user' := by
  simp [deactivate, and_assoc]

theorem runs_activate : (activate userId).Runs ctx db row db' ↔
    ∃ user, db.users.get? userId = some user ∧
      ∃ user', user' = flushed ctx db { user with isActive := true } ∧
        Model.constraints db user' = .ok () ∧
      row = userResultFrom user' ∧ db' = db.setUser user' := by
  simp [activate, and_assoc]

end UserService

namespace AuthService

theorem runs_register {ctx : Ctx} {db db' : Db} {name email password : String} {role : UserRole}
    {row : TokenResult} (h : (register name email role password).Runs ctx db row db') :
    ∃ user, (UserService.insertUser name email role password).Runs ctx db user db' := by
  simp only [register, runs_bind, runs_pure] at h
  obtain ⟨user, db₁, h₁, _, _, h₂, _, _, h₃, -, rfl⟩ := h
  obtain rfl := runs_createAccessToken h₂
  obtain rfl := runs_createRefreshToken h₃
  exact ⟨user, h₁⟩

end AuthService

end AssetPilot
