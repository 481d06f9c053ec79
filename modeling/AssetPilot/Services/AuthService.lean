import AssetPilot.Core.Verification
import AssetPilot.Services.UserService

/-!
# Login, refresh and the current user

The operations of `app/services/auth_service.py` that verify: `authenticate`, `refresh` and `get_me`. They
read the `user` table and write nothing. Both of the first two end by making a pair of tokens for a user, as
`register` does.
-/

namespace AssetPilot

open Txn

/-- `UserProfile`. -/
structure UserProfile where
  id : UUID
  name : String
  email : String
  role : UserRole
  managerId : Option UUID
  isActive : Bool
  deriving DecidableEq

namespace AuthService

def profileFrom (user : User) : UserProfile where
  id := user.id
  name := user.name
  email := user.email
  role := user.role
  managerId := user.managerId
  isActive := user.isActive

/-- The pair of tokens for a user, with the claims of `_claims_for`; the clock is read at `k` and `k + 1`. -/
def tokensFor (k : Nat) (user : User) : Service TokenResult := do
  let accessToken ← createAccessToken k user.id.str user.role.value user.email
  let refreshToken ← createRefreshToken (k + 1) user.id.str user.role.value user.email
  return { accessToken := accessToken, refreshToken := refreshToken }

theorem register_eq (name email : String) (role : UserRole) (password : String) :
    register name email role password =
      (do
        let created ← UserService.insertUser name email role password
        tokensFor 0 created) := rfl

/-- The user that `authenticate` lets in. -/
def authenticatedUser (v : Verifier) (email password : String) : Service User := do
  let invalid : Failure := unauthorizedException "Invalid email or password."
  let user ← UserRepository.getByEmail email
  let user ← orRaise user invalid
  let passwordHash ← orRaise user.passwordHash invalid
  let verified ← verifyPassword v password passwordHash
  raiseIf (¬ verified) invalid
  raiseIf (¬ user.isActive) (unauthorizedException "This account is inactive.")
  return user

def authenticate (v : Verifier) (email password : String) : Service TokenResult := do
  let user ← authenticatedUser v email password
  tokensFor 0 user

def getActiveUser (userId : Option String) : Service User := do
  let userId ← orRaise userId (unauthorizedException "Token is missing a subject claim.")
  let id ← orRaise (UUID.parse userId) (unauthorizedException "Token subject is not a valid user id.")
  let user ← UserRepository.getById id
  let user ← orRaise user (notFoundException "User not found.")
  raiseIf (¬ user.isActive) (unauthorizedException "This account is inactive.")
  return user

/-- The user that `refresh` makes new tokens for. -/
def refreshedUser (v : Verifier) (refreshToken : String) : Service User := do
  let payload ← decodeToken v 0 refreshToken (some .refresh)
  getActiveUser payload.sub

def refresh (v : Verifier) (refreshToken : String) : Service TokenResult := do
  let user ← refreshedUser v refreshToken
  tokensFor 1 user

def getMe (userId : String) : Service UserProfile := do
  let user ← getActiveUser (some userId)
  return profileFrom user

end AuthService

/-! ### The tokens of a user -/

/-- How long a token is good for. -/
def Settings.lifetime (settings : Settings) : TokenType → Int
  | .access => minutes settings.jwtAccessTokenExpireMinutes
  | .refresh => minutes settings.jwtRefreshTokenExpireMinutes

/-- The payload of a token that is made for a user at the `k`-th reading of the clock. -/
def Ctx.payload (ctx : Ctx) (k : Nat) (user : User) (type : TokenType) : JwtPayload where
  sub := user.id.str
  type := type.value
  iat := ctx.clock k
  exp := ctx.clock k + ctx.settings.lifetime type
  iss := ctx.settings.jwtIssuer
  role := user.role.value
  email := user.email

namespace AuthService

variable {v : Verifier} {ctx : Ctx} {db db' : Db} {k : Nat} {user : User} {tokens : TokenResult}

@[simp] theorem runs_tokensFor : (tokensFor k user).Runs ctx db tokens db' ↔
    tokens = { accessToken := ctx.jwtEncode (ctx.payload k user .access)
               refreshToken := ctx.jwtEncode (ctx.payload (k + 1) user .refresh) } ∧ db' = db := by
  constructor
  · intro h
    cases h
    exact ⟨rfl, rfl⟩
  · rintro ⟨rfl, rfl⟩
    rfl

@[simp] theorem runs_getActiveUser {userId : Option String} :
    (getActiveUser userId).Runs ctx db user db' ↔
      userId.bind UUID.parse = some user.id ∧ db.users.get? user.id = some user ∧ user.isActive = true ∧
        db' = db := by
  simp only [getActiveUser, runs_bind, runs_orRaise, UserRepository.runs_getById, runs_raiseIf, runs_pure]
  constructor
  · rintro ⟨text, _, ⟨rfl, rfl⟩, id, _, ⟨hid, rfl⟩, _, _, ⟨rfl, rfl⟩, u, _, ⟨hu, rfl⟩, _, _, ⟨hactive, rfl⟩,
      rfl, rfl⟩
    obtain rfl : user.id = id := Relational.Table.get?_key hu
    rw [Option.bind_some]
    exact ⟨hid, hu, not_not.mp hactive, rfl⟩
  · rintro ⟨hid, hu, hactive, rfl⟩
    obtain ⟨text, htext, hid⟩ := Option.bind_eq_some_iff.mp hid
    exact ⟨text, db', ⟨htext, rfl⟩, user.id, db', ⟨hid, rfl⟩, some user, db', ⟨hu.symm, rfl⟩, user, db',
      ⟨rfl, rfl⟩, (), db', ⟨not_not.mpr hactive, rfl⟩, rfl, rfl⟩

theorem runs_authenticatedUser {email password : String} :
    (authenticatedUser v email password).Runs ctx db user db' ↔
      db.users.rows.find? (fun u => u.email = email) = some user ∧
        (∃ hash, user.passwordHash = some hash ∧ v.checkpw password hash = some true) ∧
        user.isActive = true ∧ db' = db := by
  simp only [authenticatedUser, runs_bind, UserRepository.runs_getByEmail, runs_orRaise, runs_verifyPassword,
    runs_raiseIf, runs_pure]
  constructor
  · rintro ⟨_, _, ⟨rfl, rfl⟩, u, _, ⟨hu, rfl⟩, hash, _, ⟨hhash, rfl⟩, b, _, ⟨hcheck, rfl⟩, _, _, ⟨hb, rfl⟩,
      _, _, ⟨hactive, rfl⟩, rfl, rfl⟩
    obtain rfl : b = true := not_not.mp hb
    exact ⟨hu, ⟨hash, hhash, hcheck⟩, not_not.mp hactive, rfl⟩
  · rintro ⟨hu, ⟨hash, hhash, hcheck⟩, hactive, rfl⟩
    exact ⟨some user, db', ⟨hu.symm, rfl⟩, user, db', ⟨rfl, rfl⟩, hash, db', ⟨hhash, rfl⟩, true, db',
      ⟨hcheck, rfl⟩, (), db', ⟨not_not.mpr rfl, rfl⟩, (), db', ⟨not_not.mpr hactive, rfl⟩, rfl, rfl⟩

theorem runs_refreshedUser {token : String} : (refreshedUser v token).Runs ctx db user db' ↔
    ∃ claims, v.jwtDecode (ctx.clock 0) ctx.settings.jwtIssuer token = .ok claims ∧
      claims.type = some TokenType.refresh.value ∧ claims.sub.bind UUID.parse = some user.id ∧
      db.users.get? user.id = some user ∧ user.isActive = true ∧ db' = db := by
  simp only [refreshedUser, runs_bind, runs_decodeToken, runs_getActiveUser]
  constructor
  · rintro ⟨claims, _, ⟨hdecode, htype, rfl⟩, hsub, huser, hactive, rfl⟩
    exact ⟨claims, hdecode, htype, hsub, huser, hactive, rfl⟩
  · rintro ⟨claims, hdecode, htype, hsub, huser, hactive, rfl⟩
    exact ⟨claims, _, ⟨hdecode, htype, rfl⟩, hsub, huser, hactive, rfl⟩

end AuthService

end AssetPilot
