import AssetPilot.Core.Session

/-!
# Tokens and passwords

The parts of `app/core/security.py` that a service calls when it writes.
-/

namespace AssetPilot

open Txn

inductive TokenType
  | access
  | refresh
  deriving DecidableEq, Repr

def TokenType.value : TokenType → String
  | access => "access"
  | refresh => "refresh"

/-- `bcrypt.hashpw` raises `ValueError` on a password it does not take. -/
def hashPassword (plainPassword : String) : Service String := do
  let ctx ← ask
  orRaise (ctx.hashpw plainPassword) .valueError

/-- A minute in microseconds. -/
def minutes (n : Int) : Int := n * 60 * 1000000

/-- The clock is read once, at `k`. -/
def createToken (k : Nat) (subject : String) (tokenType : TokenType) (expiresDelta : Int)
    (role email : String) : Service String := do
  let ctx ← ask
  let now ← utcNow k
  return ctx.jwtEncode
    { sub := subject
      type := tokenType.value
      iat := now
      exp := now + expiresDelta
      iss := ctx.settings.jwtIssuer
      role := role
      email := email }

def createAccessToken (k : Nat) (subject role email : String) : Service String := do
  let ctx ← ask
  createToken k subject .access (minutes ctx.settings.jwtAccessTokenExpireMinutes) role email

def createRefreshToken (k : Nat) (subject role email : String) : Service String := do
  let ctx ← ask
  createToken k subject .refresh (minutes ctx.settings.jwtRefreshTokenExpireMinutes) role email

variable {ctx : Ctx} {db db' : Db}

@[simp] theorem runs_hashPassword {password hash : String} :
    (hashPassword password).Runs ctx db hash db' ↔ ctx.hashpw password = some hash ∧ db' = db := by
  simp [hashPassword, and_comm]

theorem runs_createToken {k : Nat} {subject role email token : String} {type : TokenType} {delta : Int}
    (h : (createToken k subject type delta role email).Runs ctx db token db') : db' = db := by
  simp only [createToken, runs_bind, runs_ask, runs_utcNow, runs_pure] at h
  obtain ⟨_, _, ⟨-, rfl⟩, _, _, ⟨-, rfl⟩, -, rfl⟩ := h
  rfl

theorem runs_createAccessToken {k : Nat} {subject role email token : String}
    (h : (createAccessToken k subject role email).Runs ctx db token db') : db' = db := by
  simp only [createAccessToken, runs_bind, runs_ask] at h
  obtain ⟨_, _, ⟨-, rfl⟩, h⟩ := h
  exact runs_createToken h

theorem runs_createRefreshToken {k : Nat} {subject role email token : String}
    (h : (createRefreshToken k subject role email).Runs ctx db token db') : db' = db := by
  simp only [createRefreshToken, runs_bind, runs_ask] at h
  obtain ⟨_, _, ⟨-, rfl⟩, h⟩ := h
  exact runs_createToken h

end AssetPilot
