import AssetPilot.Core.Security
import AssetPilot.Core.Identifiers
import AssetPilot.Lib.Weakest

/-!
# Reading tokens and passwords back

The other half of `app/core/security.py`, which verifies what the first half made, and the role gate of
`app/api/v1/dependencies.py`. The two third-party functions that verify, `bcrypt.checkpw` and `jwt.decode`,
are a parameter; what PyJWT documents of its two functions is `Verifier.Decodes`.
-/

namespace AssetPilot

open Txn

/-- The exceptions of `jwt.decode` that are told apart: every other one is an `InvalidTokenError`. -/
inductive JwtError
  | expiredSignatureError
  | invalidTokenError
  deriving DecidableEq, Repr

/-- A decoded payload as `payload.get` reads it. The two dates are in whole seconds. -/
structure JwtClaims where
  sub : Option String
  type : Option String
  iat : Option Int
  exp : Option Int
  iss : Option String
  role : Option String
  email : Option String
  deriving DecidableEq

namespace JwtPayload

/-- `jwt.encode` keeps the whole seconds of a date. -/
def seconds (t : Datetime) : Int := t / 1000000

/-- What comes back of an encoded payload. -/
def claims (p : JwtPayload) : JwtClaims where
  sub := some p.sub
  type := some p.type
  iat := some (seconds p.iat)
  exp := some (seconds p.exp)
  iss := some p.iss
  role := some p.role
  email := some p.email

/-- PyJWT refuses a token from the future: not so where `iat <= now`, to the second that `iat` was cut to. -/
def notAhead (iat : Int) (now : Datetime) : Prop := iat * 1000000 ≤ now

instance (iat : Int) (now : Datetime) : Decidable (notAhead iat now) := inferInstanceAs (Decidable (_ ≤ _))

/-- `exp <= now`, to the second that `exp` was cut to. -/
def Expired (p : JwtPayload) (now : Datetime) : Prop := seconds p.exp * 1000000 ≤ now

instance (p : JwtPayload) (now : Datetime) : Decidable (p.Expired now) := inferInstanceAs (Decidable (_ ≤ _))

end JwtPayload

/-- `bcrypt.checkpw` (`none` when it raises `ValueError`), and `jwt.decode` under the configured key and
algorithm, at a time and for an issuer. -/
structure Verifier where
  checkpw : String → String → Option Bool
  jwtDecode : Datetime → String → String → Except JwtError JwtClaims

/-- PyJWT decodes exactly the unexpired tokens that are encoded with the configured key and issuer and whose `iat`
is `timely`, to the payload that was encoded. It asks for `JwtPayload.notAhead`, or for nothing where this check
is off. -/
structure Verifier.Decodes (v : Verifier) (encode : JwtPayload → String) (timely : Int → Datetime → Prop) :
    Prop where
  accepts : ∀ now issuer token claims, v.jwtDecode now issuer token = .ok claims ↔
    ∃ p, token = encode p ∧ p.iss = issuer ∧ timely (JwtPayload.seconds p.iat) now ∧ ¬ p.Expired now ∧
      claims = p.claims
  claims_eq : ∀ p q, encode p = encode q → p.iss = q.iss → p.claims = q.claims

def verifyPassword (v : Verifier) (plainPassword hashedPassword : String) : Service Bool :=
  orRaise (v.checkpw plainPassword hashedPassword) .valueError

/-- Every exception of `jwt.decode` is answered as `Unauthorized`. -/
def orUnauthorized : Except JwtError JwtClaims → Service JwtClaims
  | .ok payload => pure payload
  | .error .expiredSignatureError => raise (unauthorizedException "Token has expired.")
  | .error .invalidTokenError => raise (unauthorizedException "Token is invalid.")

/-- `jwt.decode` reads the clock, at `k`. -/
def decodeToken (v : Verifier) (k : Nat) (token : String) (expectedType : Option TokenType) :
    Service JwtClaims := do
  let ctx ← ask
  let now ← utcNow k
  let payload ← orUnauthorized (v.jwtDecode now ctx.settings.jwtIssuer token)
  raiseIf (∃ type ∈ expectedType, payload.type ≠ some type.value)
    (unauthorizedException "Token type is not valid for this operation.")
  return payload

/-- `TokenPayload`: the verified claims of a bearer token. -/
structure TokenPayload where
  subject : String
  claims : JwtClaims
  deriving DecidableEq

/-- The credentials are the token of the `Authorization` header, if there is one. -/
def getCurrentUser (v : Verifier) (credentials : Option String) : Service TokenPayload := do
  let token ← orRaise (credentials.filter (· ≠ "")) (unauthorizedException "Missing bearer token.")
  let payload ← decodeToken v 0 token (some .access)
  let subject ← orRaise (payload.sub.filter (· ≠ "")) (unauthorizedException "Token is missing a subject claim.")
  return { subject := subject, claims := payload }

def requireItAdmin (v : Verifier) (credentials : Option String) : Service TokenPayload := do
  let currentUser ← getCurrentUser v credentials
  raiseIf (currentUser.claims.role ≠ some UserRole.itAdmin.value)
    (forbiddenException "IT Admin role is required for this action.")
  return currentUser

/-! ### Inversion -/

variable {v : Verifier} {ctx : Ctx} {db db' : Db} {k : Nat} {token : String} {c : JwtClaims}
  {credentials : Option String} {user : TokenPayload}

@[simp] theorem runs_verifyPassword {plain hashed : String} {b : Bool} :
    (verifyPassword v plain hashed).Runs ctx db b db' ↔ v.checkpw plain hashed = some b ∧ db' = db := by
  simp [verifyPassword, and_comm]

@[simp] theorem runs_orUnauthorized {d : Except JwtError JwtClaims} :
    (orUnauthorized d).Runs ctx db c db' ↔ d = .ok c ∧ db' = db := by
  rcases d with (_ | _) | payload <;> simp [orUnauthorized, eq_comm]

@[simp] theorem runs_decodeToken {type : TokenType} :
    (decodeToken v k token (some type)).Runs ctx db c db' ↔
      v.jwtDecode (ctx.clock k) ctx.settings.jwtIssuer token = .ok c ∧ c.type = some type.value ∧
        db' = db := by
  simp [decodeToken, and_assoc]

theorem runs_getCurrentUser : (getCurrentUser v credentials).Runs ctx db user db' ↔
    ∃ token, credentials = some token ∧ token ≠ "" ∧
      v.jwtDecode (ctx.clock 0) ctx.settings.jwtIssuer token = .ok user.claims ∧
      user.claims.type = some TokenType.access.value ∧ user.claims.sub = some user.subject ∧
      user.subject ≠ "" ∧ db' = db := by
  simp only [getCurrentUser, runs_bind, runs_orRaise, Option.filter_eq_some_iff, runs_decodeToken, runs_pure,
    decide_eq_true_eq]
  constructor
  · rintro ⟨token, _, ⟨⟨hcredentials, htoken⟩, rfl⟩, c, _, ⟨hdecode, htype, rfl⟩, subject, _,
      ⟨⟨hsub, hsubject⟩, rfl⟩, rfl, rfl⟩
    exact ⟨token, hcredentials, htoken, hdecode, htype, hsub, hsubject, rfl⟩
  · rintro ⟨token, hcredentials, htoken, hdecode, htype, hsub, hsubject, rfl⟩
    exact ⟨token, _, ⟨⟨hcredentials, htoken⟩, rfl⟩, user.claims, _, ⟨hdecode, htype, rfl⟩, user.subject, _,
      ⟨⟨hsub, hsubject⟩, rfl⟩, rfl, rfl⟩

theorem runs_requireItAdmin : (requireItAdmin v credentials).Runs ctx db user db' ↔
    (getCurrentUser v credentials).Runs ctx db user db' ∧
      user.claims.role = some UserRole.itAdmin.value := by
  simp [requireItAdmin, and_comm]

/-! ### What is accepted was encoded -/

namespace Verifier.Decodes

variable {encode : JwtPayload → String} {timely : Int → Datetime → Prop} {p q : JwtPayload}

theorem seconds_iat_eq (h : v.Decodes encode timely) (htoken : encode p = encode q) (hiss : p.iss = q.iss) :
    JwtPayload.seconds p.iat = JwtPayload.seconds q.iat :=
  Option.some.inj (congrArg JwtClaims.iat (h.claims_eq p q htoken hiss))

theorem expired_iff (h : v.Decodes encode timely) (htoken : encode p = encode q) (hiss : p.iss = q.iss)
    (now : Datetime) : p.Expired now ↔ q.Expired now := by
  have hexp : JwtPayload.seconds p.exp = JwtPayload.seconds q.exp :=
    Option.some.inj (congrArg JwtClaims.exp (h.claims_eq p q htoken hiss))
  unfold JwtPayload.Expired
  rw [hexp]

end Verifier.Decodes

end AssetPilot
