import AssetPilot.Auth.Refresh
import AssetPilot.Invariants.Failures

/-!
# Registering and logging in

What `register` stores `authenticate` lets in again, by the password that was given and by no other. Neither of
them, nor a schema, looks at the number of bytes of the password, over which `bcrypt` raises an error of its own,
or at whether the name can be stored.
-/

namespace AssetPilot

open Relational System Txn
open SQLAlchemyRepository (born)

/-- What `bcrypt` documents of its two functions together: `checkpw` tells the password that was hashed. -/
structure Verifier.Checks (v : Verifier) (ctx : Ctx) : Prop where
  tells : ∀ p q, p.utf8ByteSize ≤ 72 → ∀ hash ∈ ctx.hashpw q, v.checkpw p hash = some (decide (p = q))

/-- What `EmailStr` documents of the addresses that it admits. -/
structure EmailStr (admits : String → Prop) : Prop where
  short : ∀ email, admits email → email.length ≤ 254
  printable : ∀ email, admits email → Varchar.NulFree email

/-- The credentials are those of the user: with them, and with no other password, `authenticate` makes an access
token that is read as the user's, from when it was made until it ends. -/
structure LogsInAs (v : Verifier) (encode : JwtPayload → String) (timely : Int → Datetime → Prop) (issuer : String)
    (db : Db) (email password : String) (user : User) : Prop where
  accepts : ∀ ctx, ctx.Deployed encode issuer → ∃ tokens,
    (AuthService.authenticate v email password).Runs ctx db tokens db ∧
    ∀ ctx' k db', ctx'.Deployed encode issuer → timely (JwtPayload.seconds (ctx.clock 0)) (ctx'.clock k) →
      ¬ (ctx.payload 0 user .access).Expired (ctx'.clock k) → ∃ claims,
        (decodeToken v k tokens.accessToken (some .access)).Runs ctx' db' claims db' ∧
        claims.sub = some user.id.str ∧ claims.role = some user.role.value
  only : ∀ ctx p tokens db', (AuthService.authenticate v email p).Runs ctx db tokens db' → p = password

/-- `register` makes a new user of the role, whose credentials are the ones that were given. -/
def RoundTrips (v : Verifier) (encode : JwtPayload → String) (timely : Int → Datetime → Prop) (issuer : String)
    (ctx : Ctx) (db : Db) (name email : String) (role : UserRole)
    (password : String) : Prop :=
  ∃ tokens user db', (AuthService.register name email role password).Runs ctx db tokens db' ∧
    db.users.get? user.id = none ∧ db'.users.get? user.id = some user ∧ user.role = role ∧
    LogsInAs v encode timely issuer db' email password user

/-- `authenticate` returns tokens, or raises `UnauthorizedException`. -/
def LoginAnswers (v : Verifier) (ctx : Ctx) (db : Db) (email password : String) : Prop :=
  (∃ tokens, (AuthService.authenticate v email password).Runs ctx db tokens db) ∨
    ∃ message, (AuthService.authenticate v email password).Fails ctx db (unauthorizedException message)

variable {v : Verifier} {hashed admits : String → Prop} {encode : JwtPayload → String}
  {timely : Int → Datetime → Prop} {issuer : String} {ctx : Ctx} {db db' : Db} {name email password : String}
  {role : UserRole} {user : User} {tokens : TokenResult}

/-! ### Logging in -/

theorem AuthService.runs_authenticate : (authenticate v email password).Runs ctx db tokens db' ↔
    ∃ user, (authenticatedUser v email password).Runs ctx db user db ∧ (tokensFor 0 user).Runs ctx db tokens db' := by
  simp only [authenticate, runs_bind]
  constructor
  · rintro ⟨user, db₁, huser, htokens⟩
    obtain ⟨-, -, -, rfl⟩ := runs_authenticatedUser.mp huser
    exact ⟨user, huser, htokens⟩
  · rintro ⟨user, huser, htokens⟩
    exact ⟨user, db, huser, htokens⟩

theorem loginAnswers_iff (hverify : v.Bcrypt hashed) : LoginAnswers v ctx db email password ↔
    ∀ u, db.users.rows.find? (fun u => u.email = email) = some u → ∀ hash, u.passwordHash = some hash →
      password.utf8ByteSize ≤ 72 ∧ hashed hash := by
  have hvalue : ¬ ∃ m, Failure.valueError = unauthorizedException m := fun ⟨_, h⟩ => nomatch h
  rw [← AuthService.wp_authenticate (E := fun e => ∃ m, e = unauthorizedException m) (fun m => ⟨m, rfl⟩) hvalue
    hverify, wp_true_iff]
  constructor
  · rintro (⟨tokens, hruns⟩ | ⟨m, hfails⟩) e he
    · exact nomatch hruns.symm.trans he
    · exact ⟨m, Except.error.inj (he.symm.trans hfails)⟩
  · intro h
    rcases runs_or_fails (AuthService.authenticate v email password) ctx db with ⟨tokens, db', hruns⟩ | ⟨e, he⟩
    · obtain ⟨user, -, htokens⟩ := AuthService.runs_authenticate.mp hruns
      obtain ⟨-, rfl⟩ := AuthService.runs_tokensFor.mp htokens
      exact .inl ⟨tokens, hruns⟩
    · obtain ⟨m, rfl⟩ := h e he
      exact .inr ⟨m, he⟩

theorem decodes_of_tokensFor (hv : v.Decodes encode timely) (hctx : ctx.Deployed encode issuer)
    (h : (AuthService.tokensFor 0 user).Runs ctx db tokens db') {ctx' : Ctx} {k : Nat} {db'' : Db}
    (hctx' : ctx'.Deployed encode issuer) (htimely : timely (JwtPayload.seconds (ctx.clock 0)) (ctx'.clock k))
    (hvalid : ¬ (ctx.payload 0 user .access).Expired (ctx'.clock k)) :
    ∃ claims, (decodeToken v k tokens.accessToken (some .access)).Runs ctx' db'' claims db'' ∧
      claims.sub = some user.id.str ∧ claims.role = some user.role.value := by
  obtain ⟨rfl, -⟩ := AuthService.runs_tokensFor.mp h
  refine ⟨(ctx.payload 0 user .access).claims, runs_decodeToken.mpr ⟨?_, rfl, rfl⟩, rfl, rfl⟩
  rw [hctx'.issuer, hctx.encode]
  exact (hv.accepts _ _ _ _).mpr ⟨_, rfl, hctx.issuer, htimely, hvalid, rfl⟩

theorem logsInAs_of_find (hv : v.Decodes encode timely) (hverify : v.Bcrypt hashed) (hchecks : v.Checks ctx)
    (hpassword : password.utf8ByteSize ≤ 72) {hash : String} (hhash : ctx.hashpw password = some hash)
    (hfind : db.users.rows.find? (fun u => u.email = email) = some user) (hstored : user.passwordHash = some hash)
    (hactive : user.isActive = true) : LogsInAs v encode timely issuer db email password user where
  accepts := by
    intro ctx' hctx'
    have hcheck : v.checkpw password hash = some true := by
      rw [hchecks.tells password password hpassword hash hhash, decide_eq_true rfl]
    have huser : (AuthService.authenticatedUser v email password).Runs ctx' db user db :=
      AuthService.runs_authenticatedUser.mpr ⟨hfind, ⟨hash, hstored, hcheck⟩, hactive, rfl⟩
    obtain ⟨tokens, htokens⟩ : ∃ tokens, (AuthService.tokensFor 0 user).Runs ctx' db tokens db :=
      ⟨_, AuthService.runs_tokensFor.mpr ⟨rfl, rfl⟩⟩
    exact ⟨tokens, AuthService.runs_authenticate.mpr ⟨user, huser, htokens⟩,
      fun ctx'' k db'' hctx'' htimely hvalid => decodes_of_tokensFor hv hctx' htokens hctx'' htimely hvalid⟩
  only := by
    intro ctx' p tokens db' h
    obtain ⟨u, huser, -⟩ := AuthService.runs_authenticate.mp h
    obtain ⟨hfind', ⟨hash', hstored', hcheck⟩, -⟩ := AuthService.runs_authenticatedUser.mp huser
    obtain rfl := Option.some.inj (hfind.symm.trans hfind')
    obtain rfl := Option.some.inj (hstored.symm.trans hstored')
    have hshort : p.utf8ByteSize ≤ 72 := by
      by_contra hlong
      exact nomatch hcheck.symm.trans ((hverify.refuses p hash).mpr (.inl (not_le.mp hlong)))
    have hsame := (hchecks.tells p password hshort hash hhash).symm.trans hcheck
    exact of_decide_eq_true (Option.some.inj hsame)

/-! ### Registering -/

/-- The new user has the email and the hash as they are; the name may lose blanks. -/
structure UserService.Inserts (ctx : Ctx) (name email hash : String) (role : UserRole) (user : User) : Prop where
  id : user.id = ctx.uuid4 0
  name : user.name = varchar name
  email : user.email = email
  passwordHash : user.passwordHash = some hash
  role : user.role = role
  managerId : user.managerId = none
  isActive : user.isActive = true

theorem UserService.inserts_born {hash : String} (hemail : IsVarchar email) (hhash : IsVarchar hash) :
    Inserts ctx name email hash role (born ctx (newUser (ctx.uuid4 0) name email hash role)) where
  id := rfl
  name := SQLAlchemyRepository.born_name
  email := SQLAlchemyRepository.born_email.trans (varchar_of_fits hemail.2)
  passwordHash := SQLAlchemyRepository.born_passwordHash.trans (congrArg some (varchar_of_fits hhash.2))
  role := rfl
  managerId := rfl
  isActive := rfl

theorem UserService.exists_runs_insertUser (role : UserRole) (hcrypt : ctx.Bcrypt)
    (hfresh : db.users.get? (ctx.uuid4 0) = none) (hunused : ∀ u ∈ db.users.rows, u.email ≠ email)
    (hemail : IsVarchar email) (hpassword : password.utf8ByteSize ≤ 72) (hname : Storable name) :
    ∃ hash user, ctx.hashpw password = some hash ∧ Inserts ctx name email hash role user ∧
      (insertUser name email role password).Runs ctx db user (db.addUser user) := by
  obtain ⟨hash, hhash⟩ := Option.ne_none_iff_exists'.mp (mt (hcrypt.refuses password).mp (not_lt.mpr hpassword))
  have hshort : IsVarchar hash := hcrypt.short password hash hhash
  obtain ⟨user, huser⟩ : ∃ user, user = born ctx (newUser (ctx.uuid4 0) name email hash role) := ⟨_, rfl⟩
  have hinserts : Inserts ctx name email hash role user := huser ▸ inserts_born hemail hshort
  have hok : Model.constraints db user = .ok () := by
    refine User.constraints_iff.mpr ⟨fun x hx _ => ?_, ⟨?_, ?_, fun h hh => ?_⟩, ?_, ?_⟩
    · rw [User.EmailsDiffer, hinserts.email]
      exact hunused x hx
    · rw [hinserts.name]
      exact hname
    · rw [hinserts.email]
      exact hemail
    · obtain rfl := Option.some.inj (hinserts.passwordHash.symm.trans hh)
      exact hshort
    · rw [hinserts.passwordHash]
      exact Option.some_ne_none hash
    · rw [hinserts.managerId]
      exact Table.references_none
  exact ⟨hash, user, hhash, hinserts,
    runs_insertUser.mpr ⟨by simpa using hunused, hash, hhash, hfresh, hok, huser, rfl⟩⟩

theorem roundTrips_iff (hv : v.Decodes encode timely) (hverify : v.Bcrypt hashed) (hcrypt : ctx.Bcrypt)
    (hchecks : v.Checks ctx) (hfresh : db.users.get? (ctx.uuid4 0) = none) (hemail : IsVarchar email)
    (hunused : ∀ u ∈ db.users.rows, u.email ≠ email) :
    RoundTrips v encode timely issuer ctx db name email role password ↔ password.utf8ByteSize ≤ 72 ∧ Storable name := by
  constructor
  · rintro ⟨tokens, -, db', hregister, -⟩
    obtain ⟨user, hinsert⟩ := AuthService.runs_register hregister
    obtain ⟨-, hash, hhash, -, hok, rfl, -⟩ := UserService.runs_insertUser.mp hinsert
    constructor
    · by_contra hlong
      exact nomatch hhash.symm.trans ((hcrypt.refuses password).mpr (not_le.mp hlong))
    · exact (SQLAlchemyRepository.fits_born_user.mp (User.constraints_iff.mp hok).2.1).1
  · rintro ⟨hpassword, hname⟩
    obtain ⟨hash, user, hhash, huser, hinsert⟩ :=
      UserService.exists_runs_insertUser role hcrypt hfresh hunused hemail hpassword hname
    have hfresh' : db.users.get? user.id = none := huser.id ▸ hfresh
    have hfind : (db.addUser user).users.rows.find? (fun u => u.email = email) = some user :=
      Table.find?_insert hfresh' (by simpa using hunused) (decide_eq_true huser.email)
    obtain ⟨tokens, htokens⟩ : ∃ tokens,
        (AuthService.tokensFor 0 user).Runs ctx (db.addUser user) tokens (db.addUser user) :=
      ⟨_, AuthService.runs_tokensFor.mpr ⟨rfl, rfl⟩⟩
    refine ⟨tokens, user, db.addUser user, ?_, hfresh', ?_, huser.role, ?_⟩
    · rw [AuthService.register_eq, runs_bind]
      exact ⟨user, _, hinsert, htokens⟩
    · exact (Table.get?_insert hfresh' user.id).trans (if_pos rfl)
    · exact logsInAs_of_find hv hverify hchecks hpassword hhash hfind huser.passwordHash huser.isActive

/-- **Registration and login round-trip** exactly for the passwords that `bcrypt` takes and the names that can be
stored, and bad credentials are a 401 exactly where `bcrypt` takes them. -/
theorem credentials_roundTrip (hv : v.Decodes encode timely) (hverify : v.Bcrypt hashed) (hadmits : EmailStr admits) :
    (∀ ctx db name email role password, ctx.Bcrypt → v.Checks ctx → db.users.get? (ctx.uuid4 0) = none →
      admits email → RegisterRequest password → (∀ u ∈ db.users.rows, u.email ≠ email) →
        (RoundTrips v encode timely issuer ctx db name email role password ↔
          password.utf8ByteSize ≤ 72 ∧ Storable name)) ∧
    ∀ ctx db email password, admits email → (LoginAnswers v ctx db email password ↔
      ∀ u, db.users.rows.find? (fun u => u.email = email) = some u → ∀ hash, u.passwordHash = some hash →
        password.utf8ByteSize ≤ 72 ∧ hashed hash) := by
  refine ⟨?_, fun _ _ _ _ _ => loginAnswers_iff hverify⟩
  intro ctx db name email role password hcrypt hchecks hfresh hemail _ hunused
  have hvarchar : IsVarchar email := ⟨hadmits.printable email hemail, (hadmits.short email hemail).trans (by decide)⟩
  exact roundTrips_iff hv hverify hcrypt hchecks hfresh hvarchar hunused

/-! ### A small `bcrypt` -/

namespace Sample

/-- What its hashes start with. -/
def salt : String := "$2b$12$sampleSaltSampleSalt22"

/-- The characters, with an escape for `NUL`. -/
def escape : List Char → List Char
  | [] => []
  | c :: cs =>
    if c = '\x00' then '\\' :: '0' :: escape cs
    else if c = '\\' then '\\' :: '\\' :: escape cs
    else c :: escape cs

theorem escape_injective {p q : List Char} (h : escape p = escape q) : p = q := by
  induction p generalizing q with
  | nil => cases q <;> grind [escape]
  | cons c cs ih => cases q <;> grind [escape]

theorem nul_notMem_escape (p : List Char) : '\x00' ∉ escape p := by
  induction p with
  | nil => exact List.not_mem_nil
  | cons c cs ih => grind [escape]

theorem length_escape_le (p : List Char) : (escape p).length ≤ 2 * p.length := by
  induction p with
  | nil => exact Nat.le_refl 0
  | cons c cs ih => grind [escape]

/-- A salt and the password. -/
def salted (password : String) : String := salt ++ String.ofList (escape password.toList)

/-- Calls at time 5 under the small key, which hash. -/
def salting : Ctx :=
  { keyed with
    hashpw := fun password => if 72 < password.utf8ByteSize then none else some (salted password) }

def Salted (hash : String) : Prop := salt.toList <+: hash.toList

instance (hash : String) : Decidable (Salted hash) := inferInstanceAs (Decidable (_ <+: _))

def checker : Verifier :=
  { verifier with
    checkpw := fun password hash =>
      if 72 < password.utf8ByteSize ∨ ¬ Salted hash then none else some (hash = salted password) }

theorem checker_decodes : checker.Decodes sign JwtPayload.notAhead :=
  ⟨verifier_decodes.accepts, verifier_decodes.claims_eq⟩

theorem checker_bcrypt : checker.Bcrypt Salted := by
  refine ⟨fun p hash => ?_⟩
  simp [checker, or_iff_not_imp_left]

theorem length_le_utf8ByteSize (s : String) : s.length ≤ s.utf8ByteSize := by
  rw [← String.utf8Len_toList, ← String.length_toList]
  induction s.toList with
  | nil => exact Nat.le_refl 0
  | cons c cs ih =>
    rw [List.length_cons, String.utf8Len_cons]
    exact Nat.add_le_add ih c.utf8Size_pos

theorem salting_bcrypt : salting.Bcrypt := by
  refine ⟨fun p => by simp [salting], fun p hash hhash => ?_⟩
  simp only [salting, Option.mem_def, Option.ite_none_left_eq_some, not_lt, Option.some.injEq] at hhash
  obtain ⟨hshort, rfl⟩ := hhash
  have hlength := (length_le_utf8ByteSize p).trans hshort
  have hsalt : salt.length = 29 := by decide
  have hescape := length_escape_le p.toList
  rw [String.length_toList] at hescape
  constructor
  · rw [Varchar.NulFree, salted, String.toList_append, String.toList_ofList, List.mem_append, not_or]
    exact ⟨by decide, nul_notMem_escape p.toList⟩
  · rw [FitsVarchar, Varchar.Fits, salted, String.length_append, String.length_ofList, hsalt]
    omega

theorem checker_checks : checker.Checks salting := by
  refine ⟨fun p q hp hash hhash => ?_⟩
  simp only [salting, Option.mem_def, Option.ite_none_left_eq_some, Option.some.injEq] at hhash
  obtain ⟨-, rfl⟩ := hhash
  have hsalted : Salted (salted q) := by simp [Salted, salted]
  have hsame : salted q = salted p ↔ p = q := by
    rw [salted, salted, String.append_right_inj, String.ofList_inj]
    exact ⟨fun h => (String.toList_inj.mp (escape_injective h)).symm, fun h => h ▸ rfl⟩
  simp [checker, not_lt.mpr hp, hsalted, hsame]

theorem addresses_emailStr : EmailStr (· ∈ ["ann@example.com", "two@example.com"]) := ⟨by decide, by decide⟩

/-- Ann, as she is registered. -/
def ann : User where
  id := 100
  name := "Ann"
  email := "ann@example.com"
  passwordHash := some (salted "password")
  role := .manager
  createdAt := 5
  updatedAt := 5

def registered : Db := (AuthService.register "Ann" "ann@example.com" .manager "password").exec salting store

/-- A password of 73 bytes. -/
def longPassword : String := String.ofList (List.replicate 73 'a')

/-- A name of 256 characters. -/
def longName : String := String.ofList (List.replicate 256 'a')

theorem replicate_not_storable {n : Nat} (h : 255 < n) : ¬ Storable (String.ofList (List.replicate n 'a')) := by
  intro hstorable
  have hblank := (storable_iff.mp hstorable).2 'a'
  rw [String.toList_ofList, List.drop_replicate, List.mem_replicate] at hblank
  exact absurd (hblank ⟨Nat.sub_ne_zero_of_lt h, rfl⟩) (by decide)

theorem longName_not_storable : ¬ Storable longName := replicate_not_storable (by decide)

end Sample

/-- Ann registers and logs in, and a wrong password is answered. -/
theorem credentials_roundTrip_ann :
    RoundTrips Sample.checker Sample.sign JwtPayload.notAhead "asset-pilot" Sample.salting Sample.store "Ann"
        "ann@example.com" .manager "password" ∧
      LoginAnswers Sample.checker Sample.salting Sample.registered "ann@example.com" "guess" := by
  obtain ⟨hregister, hlogin⟩ :=
    credentials_roundTrip Sample.checker_decodes Sample.checker_bcrypt Sample.addresses_emailStr
  constructor
  · exact (hregister Sample.salting Sample.store "Ann" "ann@example.com" .manager "password" Sample.salting_bcrypt
      Sample.checker_checks (by decide) (by decide) (by decide) (by decide)).mpr (by decide)
  · refine (hlogin Sample.salting Sample.registered "ann@example.com" "guess" (by decide)).mpr fun u hu hash hhash => ?_
    have hfind : Sample.registered.users.rows.find? (fun u => u.email = "ann@example.com") = some Sample.ann := rfl
    obtain rfl := Option.some.inj (hfind.symm.trans hu)
    obtain rfl := Option.some.inj hhash
    decide

/-- A password of 73 bytes ends in the `ValueError` of `bcrypt`, at the registration and at the login, and nobody
registers under a name of 256 characters. -/
theorem longPassword_not_roundTrips :
    Sample.salting.Bcrypt ∧ Sample.checker.Checks Sample.salting ∧ RegisterRequest Sample.longPassword ∧
      (∀ u ∈ Sample.store.users.rows, u.email ≠ "ann@example.com") ∧
      (AuthService.register "Ann" "ann@example.com" .manager Sample.longPassword).Fails Sample.salting Sample.store
        .valueError ∧
      ¬ RoundTrips Sample.checker Sample.sign JwtPayload.notAhead "asset-pilot" Sample.salting Sample.store "Ann"
        "ann@example.com" .manager Sample.longPassword ∧
      ¬ RoundTrips Sample.checker Sample.sign JwtPayload.notAhead "asset-pilot" Sample.salting Sample.store
        Sample.longName "ann@example.com" .manager "password" ∧
      (AuthService.authenticate Sample.checker "ann@example.com" Sample.longPassword).Fails Sample.salting
        Sample.registered .valueError ∧
      ¬ LoginAnswers Sample.checker Sample.salting Sample.registered "ann@example.com" Sample.longPassword := by
  have hregister : (AuthService.register "Ann" "ann@example.com" .manager Sample.longPassword).Fails Sample.salting
      Sample.store .valueError := rfl
  have hlogin : (AuthService.authenticate Sample.checker "ann@example.com" Sample.longPassword).Fails Sample.salting
      Sample.registered .valueError := rfl
  refine ⟨Sample.salting_bcrypt, Sample.checker_checks, by decide, by decide, hregister, ?_, ?_, hlogin, ?_⟩
  · rintro ⟨tokens, user, db', hruns, -⟩
    exact nomatch hruns.symm.trans hregister
  · have hunused : ∀ u ∈ Sample.store.users.rows, u.email ≠ "ann@example.com" := by decide
    have hemail : IsVarchar "ann@example.com" := by decide
    exact mt (roundTrips_iff Sample.checker_decodes Sample.checker_bcrypt Sample.salting_bcrypt Sample.checker_checks
      rfl hemail hunused).mp fun h => Sample.longName_not_storable h.2
  · rintro (⟨tokens, hruns⟩ | ⟨m, hfails⟩)
    · exact nomatch hruns.symm.trans hlogin
    · exact nomatch Except.error.inj (hfails.symm.trans hlogin)

end AssetPilot
