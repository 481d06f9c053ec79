import AssetPilot.Lib.Fields
import AssetPilot.Lib.System
import AssetPilot.Services.AuthService

/-!
# Callers and their tokens

The calls that make tokens or write the `user` table, as one system. Beside the database its states keep
what the code does not: every token that was handed out, and every user that an administrator made one. A
token is a text that anybody can present; what nobody can do is sign one (`AuthState.Unforged`).
-/

namespace AssetPilot

open Relational System Txn

/-- A token that a call returned, for which user, and from when until when. -/
structure Minted where
  text : String
  type : TokenType
  user : User
  issued : Datetime
  expires : Datetime

/-- To the second that `jwt.encode` cuts the date to. -/
def Minted.Expired (m : Minted) (now : Datetime) : Prop := JwtPayload.seconds m.expires * 1000000 ≤ now

/-- The token has been issued, as far as that is asked for, and has not ended. -/
def Minted.Live (m : Minted) (timely : Int → Datetime → Prop) (now : Datetime) : Prop :=
  timely (JwtPayload.seconds m.issued) now ∧ ¬ m.Expired now

inductive AuthCall
  | register (name email : String) (role : UserRole) (password : String)
  | authenticate (email password : String)
  | refresh (refreshToken : String)
  | createUser (name email : String) (role : UserRole)
  | changeRole (userId : UUID) (role : UserRole)
  | activate (userId : UUID)
  | deactivate (userId : UUID)

/-- The two tokens of a `TokenResult`. -/
def Ctx.minted (ctx : Ctx) (k : Nat) (user : User) (tokens : TokenResult) : List Minted :=
  [{ text := tokens.accessToken
     type := .access
     user := user
     issued := ctx.clock k
     expires := ctx.clock k + ctx.settings.lifetime .access },
   { text := tokens.refreshToken
     type := .refresh
     user := user
     issued := ctx.clock (k + 1)
     expires := ctx.clock (k + 1) + ctx.settings.lifetime .refresh }]

/-- `AuthService.tokensFor`, with the record of what it makes. -/
def mintFor (k : Nat) (user : User) : Service (List Minted) := do
  let ctx ← ask
  let tokens ← AuthService.tokensFor k user
  return ctx.minted k user tokens

namespace AuthCall

/-- What the service does, and the tokens that it hands out. -/
def run (v : Verifier) : AuthCall → Service (List Minted)
  | register name email role password => do
    let user ← UserService.insertUser name email role password
    mintFor 0 user
  | authenticate email password => do
    let user ← AuthService.authenticatedUser v email password
    mintFor 0 user
  | refresh refreshToken => do
    let user ← AuthService.refreshedUser v refreshToken
    mintFor 1 user
  | createUser name email role => do
    let _ ← UserService.createUser name email role
    return []
  | changeRole userId role => do
    let _ ← UserService.changeRole userId role
    return []
  | activate userId => do
    let _ ← UserService.activate userId
    return []
  | deactivate userId => do
    let _ ← UserService.deactivate userId
    return []

/-- What the service itself returns: the two texts, or nothing. -/
def returned (v : Verifier) : AuthCall → Service (List String)
  | register name email role password => do
    let tokens ← AuthService.register name email role password
    return [tokens.accessToken, tokens.refreshToken]
  | authenticate email password => do
    let tokens ← AuthService.authenticate v email password
    return [tokens.accessToken, tokens.refreshToken]
  | refresh refreshToken => do
    let tokens ← AuthService.refresh v refreshToken
    return [tokens.accessToken, tokens.refreshToken]
  | createUser name email role => do
    let _ ← UserService.createUser name email role
    return []
  | changeRole userId role => do
    let _ ← UserService.changeRole userId role
    return []
  | activate userId => do
    let _ ← UserService.activate userId
    return []
  | deactivate userId => do
    let _ ← UserService.deactivate userId
    return []

/-- The record adds to what the service does only the users and the dates. -/
theorem run_eq (v : Verifier) (call : AuthCall) :
    (do
      let minted ← call.run v
      return minted.map Minted.text) = call.returned v := by
  have hmint : ∀ (x : Service User) (k : Nat),
      (x >>= mintFor k >>= fun minted => pure (minted.map Minted.text)) =
        (x >>= AuthService.tokensFor k >>= fun tokens => pure [tokens.accessToken, tokens.refreshToken]) := by
    intro x k
    rw [Txn.bind_assoc, Txn.bind_assoc]
    rfl
  cases call with
  | register name email role password =>
    rw [returned, AuthService.register_eq]
    exact hmint (UserService.insertUser name email role password) 0
  | authenticate email password => exact hmint (AuthService.authenticatedUser v email password) 0
  | refresh refreshToken => exact hmint (AuthService.refreshedUser v refreshToken) 1
  | createUser | changeRole | activate | deactivate => exact Txn.bind_assoc _ _ _

/-- The calls behind the role gate. -/
def isAdmin : AuthCall → Bool
  | createUser .. | changeRole .. | activate .. | deactivate .. => true
  | register .. | authenticate .. | refresh .. => false

/-- The users that the call makes administrators: the new one, or the one that is named. -/
def grants (ctx : Ctx) : AuthCall → List UUID
  | createUser _ _ .itAdmin => [ctx.uuid4 0]
  | changeRole userId .itAdmin => [userId]
  | _ => []

end AuthCall

/-- One call: what it reads from outside, the token that comes with it, and the call. -/
structure AuthEvent where
  ctx : Ctx
  bearer : Option String
  call : AuthCall

structure AuthState where
  db : Db
  minted : List Minted
  granted : List UUID

/-- The users that an administrator makes administrators: the token that comes with the call passes the role
gate. -/
def AuthEvent.granted (v : Verifier) (e : AuthEvent) (db : Db) : List UUID :=
  if (requireItAdmin v e.bearer).succeeds e.ctx db then e.call.grants e.ctx else []

/-- A failed call leaves everything as it was. -/
def AuthEvent.exec (v : Verifier) (e : AuthEvent) (s : AuthState) : AuthState :=
  match e.call.run v e.ctx s.db with
  | .ok (minted, db) => { db := db, minted := s.minted ++ minted, granted := s.granted ++ e.granted v s.db }
  | .error _ => s

/-- One event of the system. -/
def AuthStep (v : Verifier) (s : AuthState) (e : AuthEvent) (s' : AuthState) : Prop := s' = e.exec v s

/-- The deployment has one key, in `encode`, and one issuer. -/
structure Ctx.Deployed (ctx : Ctx) (encode : JwtPayload → String) (issuer : String) : Prop where
  encode : ctx.jwtEncode = encode
  issuer : ctx.settings.jwtIssuer = issuer

/-- A text that is signed for the issuer was handed out. -/
def AuthState.Unforged (s : AuthState) (encode : JwtPayload → String) (issuer token : String) : Prop :=
  ∀ p : JwtPayload, p.iss = issuer → token = encode p → ∃ m ∈ s.minted, m.text = token

variable {v : Verifier} {encode : JwtPayload → String} {issuer : String} {ctx : Ctx} {db db' : Db}
  {s s' : AuthState} {e : AuthEvent} {minted : List Minted} {m : Minted} {user : User} {k : Nat}

/-! ### One event -/

theorem AuthStep.cases (h : AuthStep v s e s') :
    s' = s ∨ ∃ minted db, (e.call.run v).Runs e.ctx s.db minted db ∧
      s' = { db := db, minted := s.minted ++ minted, granted := s.granted ++ e.granted v s.db } := by
  unfold AuthStep AuthEvent.exec at h
  split at h
  · next minted db hruns => exact .inr ⟨minted, db, hruns, h⟩
  · exact .inl h

/-- The texts are signed, with the claims of the user as the row was. -/
structure Minted.Genuine (m : Minted) (encode : JwtPayload → String) (issuer : String) : Prop where
  signed : m.text = encode
    { sub := m.user.id.str
      type := m.type.value
      iat := m.issued
      exp := m.expires
      iss := issuer
      role := m.user.role.value
      email := m.user.email }

theorem runs_mintFor : (mintFor k user).Runs ctx db minted db' ↔
    ∃ tokens, (AuthService.tokensFor k user).Runs ctx db tokens db' ∧ minted = ctx.minted k user tokens := by
  simp [mintFor]

theorem genuine_of_mintFor (hctx : ctx.Deployed encode issuer)
    (h : (mintFor k user).Runs ctx db minted db') : ∀ m ∈ minted, m.Genuine encode issuer ∧ m.user = user := by
  obtain ⟨tokens, htokens, rfl⟩ := runs_mintFor.mp h
  obtain ⟨rfl, -⟩ := AuthService.runs_tokensFor.mp htokens
  intro m hm
  simp only [Ctx.minted, List.mem_cons, List.not_mem_nil, or_false, hctx.encode] at hm
  rcases hm with rfl | rfl
  · exact ⟨⟨by simp only [Ctx.payload, hctx.issuer]⟩, rfl⟩
  · exact ⟨⟨by simp only [Ctx.payload, hctx.issuer]⟩, rfl⟩

namespace AuthCall

variable {call : AuthCall}

theorem runs_mintFor_of {x : Service User} (h : (x >>= mintFor k).Runs ctx db minted db') :
    ∃ user, x.Runs ctx db user db' ∧ (mintFor k user).Runs ctx db' minted db' := by
  obtain ⟨user, db₁, hx, hmint⟩ := runs_bind.mp h
  obtain ⟨tokens, htokens, -⟩ := runs_mintFor.mp hmint
  obtain ⟨-, rfl⟩ := AuthService.runs_tokensFor.mp htokens
  exact ⟨user, hx, hmint⟩

theorem insertUser_adds {name email password : String} {role : UserRole}
    (h : (UserService.insertUser name email role password).Runs ctx db user db') :
    user.id = ctx.uuid4 0 ∧ user.role = role ∧
      ((∀ u ∈ db.users.rows, u.email ≠ email) ∧ ctx.hashpw password ≠ none) ∧
      ∀ u : User, u ∈ db'.users.rows ↔ u ∈ db.users.rows ∨ u = user := by
  obtain ⟨hfind, hash, hhash, hfresh, -, hborn, rfl⟩ := UserService.runs_insertUser.mp h
  have hid : user.id = ctx.uuid4 0 := hborn ▸ rfl
  have hrole : user.role = role := hborn ▸ rfl
  rw [← hid] at hfresh
  exact ⟨hid, hrole, ⟨by simpa using hfind, hhash ▸ Option.some_ne_none hash⟩, fun u => Table.mem_insert hfresh⟩

theorem minted_cases (h : (call.run v).Runs ctx db minted db') :
    minted = [] ∨ ∃ k user, (mintFor k user).Runs ctx db' minted db' ∧ user ∈ db'.users.rows := by
  cases call with
  | register name email role password =>
    obtain ⟨user, hinsert, hmint⟩ := runs_mintFor_of h
    exact .inr ⟨0, user, hmint, ((insertUser_adds hinsert).2.2.2 user).mpr (.inr rfl)⟩
  | authenticate email password =>
    obtain ⟨user, huser, hmint⟩ := runs_mintFor_of h
    obtain ⟨hfind, -, -, rfl⟩ := AuthService.runs_authenticatedUser.mp huser
    exact .inr ⟨0, user, hmint, List.mem_of_find?_eq_some hfind⟩
  | refresh token =>
    obtain ⟨user, huser, hmint⟩ := runs_mintFor_of h
    obtain ⟨claims, -, -, -, hget, -, rfl⟩ := AuthService.runs_refreshedUser.mp huser
    exact .inr ⟨1, user, hmint, Table.get?_mem hget⟩
  | createUser | changeRole | activate | deactivate =>
    simp only [run, runs_bind, runs_pure] at h
    obtain ⟨_, _, -, rfl, -⟩ := h
    exact .inl rfl

/-- Where a row of the users comes from: it was there, with its role, or it is the new user of a
registration, or an administrator wrote it. -/
theorem users_cases (h : (call.run v).Runs ctx db minted db') {u : User} (hu : u ∈ db'.users.rows) :
    (∃ w ∈ db.users.rows, w.id = u.id ∧ w.role = u.role) ∨
      (∃ name email password, call = .register name email u.role password ∧
        (∀ w ∈ db.users.rows, w.email ≠ email) ∧ ctx.hashpw password ≠ none) ∨
      (call.isAdmin = true ∧ (u.role = .itAdmin → u.id ∈ call.grants ctx)) := by
  have hset : ∀ w w' : User, db.users.get? w.id = some w → w'.id = w.id → w'.role = w.role →
      u ∈ (db.users.set w').rows → ∃ w ∈ db.users.rows, w.id = u.id ∧ w.role = u.role := by
    intro w w' hw hid hrole hu
    rcases Table.mem_set.mp hu with ⟨rfl, -⟩ | ⟨hmem, -⟩
    · exact ⟨w, Table.get?_mem hw, hid.symm, hrole.symm⟩
    · exact ⟨u, hmem, rfl, rfl⟩
  cases call with
  | register name email role password =>
    obtain ⟨user, hinsert, -⟩ := runs_mintFor_of h
    obtain ⟨-, rfl, hemail, hadds⟩ := insertUser_adds hinsert
    rcases (hadds u).mp hu with hmem | rfl
    · exact .inl ⟨u, hmem, rfl, rfl⟩
    · exact .inr (.inl ⟨name, email, password, rfl, hemail⟩)
  | authenticate email password =>
    obtain ⟨user, huser, -⟩ := runs_mintFor_of h
    obtain ⟨-, -, -, rfl⟩ := AuthService.runs_authenticatedUser.mp huser
    exact .inl ⟨u, hu, rfl, rfl⟩
  | refresh token =>
    obtain ⟨user, huser, -⟩ := runs_mintFor_of h
    obtain ⟨claims, -, -, -, -, -, rfl⟩ := AuthService.runs_refreshedUser.mp huser
    exact .inl ⟨u, hu, rfl, rfl⟩
  | createUser name email role =>
    simp only [run, runs_bind, runs_pure, UserService.runs_createUser] at h
    obtain ⟨_, _, ⟨user, hinsert, -⟩, -, rfl⟩ := h
    obtain ⟨hid, rfl, -, hadds⟩ := insertUser_adds hinsert
    rcases (hadds u).mp hu with hmem | rfl
    · exact .inl ⟨u, hmem, rfl, rfl⟩
    · refine .inr (.inr ⟨rfl, fun hrole => ?_⟩)
      rw [hid, hrole]
      exact List.mem_singleton_self _
  | changeRole userId role =>
    simp only [run, runs_bind, runs_pure, UserService.runs_changeRole] at h
    obtain ⟨_, _, ⟨w, hw, w', hw', -, -, rfl⟩, -, rfl⟩ := h
    rcases Table.mem_set.mp hu with ⟨rfl, -⟩ | ⟨hmem, -⟩
    · have hid : u.id = userId := hw' ▸ (Table.get?_key hw : w.id = userId)
      have hrole : u.role = role := hw' ▸ rfl
      refine .inr (.inr ⟨rfl, fun hadmin => ?_⟩)
      rw [hid, ← hrole, hadmin]
      exact List.mem_singleton_self _
    · exact .inl ⟨u, hmem, rfl, rfl⟩
  | activate userId =>
    simp only [run, runs_bind, runs_pure, UserService.runs_activate] at h
    obtain ⟨_, _, ⟨w, hw, w', rfl, -, -, rfl⟩, -, rfl⟩ := h
    obtain rfl : w.id = userId := Table.get?_key hw
    refine .inl (hset w _ hw ?_ ?_ hu) <;> rfl
  | deactivate userId =>
    simp only [run, runs_bind, runs_pure, UserService.runs_deactivate] at h
    obtain ⟨_, _, ⟨w, hw, -, w', rfl, -, -, rfl⟩, -, rfl⟩ := h
    obtain rfl : w.id = userId := Table.get?_key hw
    refine .inl (hset w _ hw ?_ ?_ hu) <;> rfl

end AuthCall

/-- **Every token that is handed out is genuine.** -/
theorem genuine_of_step (hctx : e.ctx.Deployed encode issuer) (hstep : AuthStep v s e s')
    (h : ∀ m ∈ s.minted, m.Genuine encode issuer) : ∀ m ∈ s'.minted, m.Genuine encode issuer := by
  rcases hstep.cases with rfl | ⟨minted, db, hruns, rfl⟩
  · exact h
  · intro m hm
    rcases List.mem_append.mp hm with hm | hm
    · exact h m hm
    · rcases AuthCall.minted_cases hruns with rfl | ⟨k, user, hmint, -⟩
      · exact absurd hm List.not_mem_nil
      · exact (genuine_of_mintFor hctx hmint m hm).1

/-! ### What comes back of a token -/

section
variable {timely : Int → Datetime → Prop} {claims : JwtClaims} {now : Datetime} {token : String}

/-- A token that was handed out is read back as it was made, and only in its time. -/
theorem Minted.Genuine.decoded (hm : m.Genuine encode issuer) (hv : v.Decodes encode timely)
    (h : v.jwtDecode now issuer m.text = .ok claims) : m.Live timely now ∧ claims.sub = some m.user.id.str ∧
      claims.type = some m.type.value ∧ claims.role = some m.user.role.value := by
  obtain ⟨p, htext, hiss, htimely, hexpired, rfl⟩ := (hv.accepts now issuer m.text claims).mp h
  have hsame := hm.signed.symm.trans htext
  refine ⟨⟨?_, fun hm' => hexpired ((hv.expired_iff hsame hiss.symm now).mp hm')⟩, ?_⟩
  · rw [← hv.seconds_iat_eq hsame hiss.symm] at htimely
    exact htimely
  · rw [← hv.claims_eq _ p hsame hiss.symm]
    exact ⟨rfl, rfl, rfl⟩

theorem Minted.Genuine.decodes (hm : m.Genuine encode issuer) (hv : v.Decodes encode timely)
    (h : m.Live timely now) : ∃ claims, v.jwtDecode now issuer m.text = .ok claims :=
  ⟨_, (hv.accepts now issuer m.text _).mpr ⟨_, hm.signed, rfl, h.1, h.2, rfl⟩⟩

/-- What is read at all was handed out. -/
theorem exists_minted (hv : v.Decodes encode timely) (hunforged : s.Unforged encode issuer token)
    (h : v.jwtDecode now issuer token = .ok claims) : ∃ m ∈ s.minted, m.text = token := by
  obtain ⟨p, htoken, hiss, -⟩ := (hv.accepts now issuer token claims).mp h
  exact hunforged p hiss htoken

end

/-! ### A small key -/

namespace Sample

/-- The texts that the key signs. -/
def sign (p : JwtPayload) : String :=
  String.ofList (Fields.join [p.sub.toList, p.type.toList, Fields.tally (JwtPayload.seconds p.iat),
    Fields.tally (JwtPayload.seconds p.exp), p.iss.toList, p.role.toList, p.email.toList])

def unsign (token : String) : Option JwtPayload :=
  match Fields.split token.toList with
  | some [sub, type, iat, exp, iss, role, email] => some
    { sub := String.ofList sub
      type := String.ofList type
      iat := Fields.readTally iat * 1000000
      exp := Fields.readTally exp * 1000000
      iss := String.ofList iss
      role := String.ofList role
      email := String.ofList email }
  | _ => none

/-- A token is read and signed once more. -/
def verifier : Verifier where
  checkpw plainPassword hashedPassword := some (plainPassword = hashedPassword)
  jwtDecode now issuer token :=
    match unsign token with
    | some p =>
      if sign p = token ∧ p.iss = issuer then
        if ¬ JwtPayload.notAhead (JwtPayload.seconds p.iat) now then .error .invalidTokenError
        else if p.Expired now then .error .expiredSignatureError else .ok p.claims
      else .error .invalidTokenError
    | none => .error .invalidTokenError

/-- The payload that is read, with the dates cut to the second. -/
def cut (p : JwtPayload) : JwtPayload :=
  { p with
    iat := JwtPayload.seconds p.iat * 1000000
    exp := JwtPayload.seconds p.exp * 1000000 }

theorem seconds_cut (t : Datetime) :
    JwtPayload.seconds (JwtPayload.seconds t * 1000000) = JwtPayload.seconds t := by
  unfold JwtPayload.seconds
  omega

theorem unsign_sign (p : JwtPayload) : unsign (sign p) = some (cut p) := by
  simp [unsign, sign, Fields.split_join, Fields.readTally_tally, cut]

theorem claims_cut (p : JwtPayload) : (cut p).claims = p.claims := by
  simp only [JwtPayload.claims, cut, seconds_cut]

theorem verifier_decodes : verifier.Decodes sign JwtPayload.notAhead where
  accepts now issuer token claims := by
    constructor
    · intro h
      simp only [verifier] at h
      split at h
      · next p hp =>
        split_ifs at h with hsigned htimely hexpired
        exact ⟨p, hsigned.1.symm, hsigned.2, htimely, hexpired, (Except.ok.inj h).symm⟩
      · cases h
    · rintro ⟨p, rfl, rfl, htimely, hexpired, rfl⟩
      have hsigned : sign (cut p) = sign p ∧ (cut p).iss = p.iss := by
        simp only [sign, cut, seconds_cut, and_self]
      have htimely' : JwtPayload.notAhead (JwtPayload.seconds (cut p).iat) now := by
        simpa only [cut, seconds_cut] using htimely
      have hexpired' : ¬ (cut p).Expired now := by
        simpa only [JwtPayload.Expired, cut, seconds_cut] using hexpired
      simp only [verifier, unsign_sign]
      rw [if_pos hsigned, if_neg (not_not.mpr htimely'), if_neg hexpired', claims_cut]
  claims_eq p q htoken _ := by
    have hcut : cut p = cut q := Option.some.inj ((unsign_sign p).symm.trans (htoken ▸ unsign_sign q))
    rw [← claims_cut p, hcut, claims_cut]

end Sample

end AssetPilot
