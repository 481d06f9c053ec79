import AssetPilot.Models.Rows
import AssetPilot.Core.Exceptions
import AssetPilot.Lib.Transaction

/-!
# The request-scoped session

Every service call runs in one database session, which `get_db_session` commits on a clean exit and
rolls back on an exception: a `Service` is a transaction over the database, and `Txn.exec` is what the
call leaves behind. What a call reads from outside the database is in its `Ctx`.
-/

namespace AssetPilot

/-- The settings that the token functions read. -/
structure Settings where
  jwtIssuer : String
  jwtAccessTokenExpireMinutes : Int
  jwtRefreshTokenExpireMinutes : Int

/-- The claims of a token, as `_create_token` builds them. -/
structure JwtPayload where
  sub : String
  type : String
  iat : Datetime
  exp : Datetime
  iss : String
  role : String
  email : String
  deriving DecidableEq

/-- What one service call reads from outside the database: the successive readings of the clock, the
database's `now()` (the start of the transaction), the successive results of `uuid.uuid4()`, the
settings, and the third-party functions `bcrypt.hashpw` (with a fresh salt; `none` when it raises
`ValueError`) and `jwt.encode`. -/
structure Ctx where
  clock : Nat → Datetime
  txTime : Datetime
  uuid4 : Nat → UUID
  settings : Settings
  hashpw : String → Option String
  jwtEncode : JwtPayload → String

abbrev Service := Txn Ctx Db Failure

open Txn

/-- The `k`-th `datetime.now(UTC)` of the call. -/
def utcNow (k : Nat) : Service Datetime := do
  let ctx ← ask
  return ctx.clock k

/-- The `k`-th `uuid.uuid4()` of the call. -/
def uuid4 (k : Nat) : Service UUID := do
  let ctx ← ask
  return ctx.uuid4 k

variable {ctx : Ctx} {db db' : Db} {e : Failure}

@[simp] theorem runs_utcNow {k : Nat} {t : Datetime} :
    (utcNow k).Runs ctx db t db' ↔ t = ctx.clock k ∧ db' = db := by
  simp [utcNow, and_comm]

@[simp] theorem runs_uuid4 {k : Nat} {u : UUID} :
    (uuid4 k).Runs ctx db u db' ↔ u = ctx.uuid4 k ∧ db' = db := by
  simp [uuid4, and_comm]

@[simp] theorem fails_utcNow {k : Nat} : (utcNow k).Fails ctx db e ↔ False := by
  simp [utcNow]

@[simp] theorem fails_uuid4 {k : Nat} : (uuid4 k).Fails ctx db e ↔ False := by
  simp [uuid4]

end AssetPilot
