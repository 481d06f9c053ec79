import AssetPilot.Api.System
import AssetPilot.Listings.Pages
import AssetPilot.Secrecy.Views

/-!
# What the API shows of a hash

The API run twice, from stores that differ in password hashes, on the same requests. Of a hash the responses show what
`bcrypt.checkpw` says of the password in a login, and nothing else; the data of the endpoints that read show nothing.
-/

namespace AssetPilot

open Relational System Txn

variable {v : Verifier} {ctx : Ctx} {db db' : Db} {u u' : User} {bearer : Option String} {email password : String}

/-! ### Tokens and the current user -/

theorem unseeing_orUnauthorized (d : Except JwtError JwtClaims) : Unseeing (orUnauthorized d) := by
  rcases d with (_ | _) | claims
  · exact .raise _
  · exact .raise _
  · exact .pure _

theorem unseeing_decodeToken (k : Nat) (token : String) (type : Option TokenType) :
    Unseeing (decodeToken v k token type) := by
  refine Blind.ask.bind fun _ => (unseeing_utcNow k).bind fun _ => (unseeing_orUnauthorized _).bind fun _ => ?_
  exact (Blind.raiseIf _ _).bind fun _ => .pure _

theorem unseeing_getCurrentUser (bearer : Option String) : Unseeing (getCurrentUser v bearer) := by
  refine (Blind.orRaise _ _).bind fun _ => (unseeing_decodeToken _ _ _).bind fun _ => ?_
  exact (Blind.orRaise _ _).bind fun _ => .pure _

theorem unseeing_requireItAdmin (bearer : Option String) : Unseeing (requireItAdmin v bearer) :=
  (unseeing_getCurrentUser bearer).bind fun _ => (Blind.raiseIf _ _).bind fun _ => .pure _

/-- Two users that differ in the hash, and such stores. -/
def MaskedAlike (u u' : User) (db db' : Db) : Prop := u.masked = u'.masked ∧ db.Alike db'

theorem coupled_orRaise {o o' : Option User} {e : Failure} (h : SameUser o o' db db') :
    Coupled MaskedAlike (orRaise o e) (orRaise o' e) ctx db db' := by
  rcases o with _ | u <;> rcases o' with _ | u'
  · exact .of_fails rfl rfl
  · exact absurd h.1 nofun
  · exact absurd h.1 nofun
  · exact .of_runs rfl rfl ⟨Option.some.inj h.1, h.2⟩

namespace AuthService

theorem coupled_getActiveUser {userId : Option String} (h : db.Alike db') :
    Coupled MaskedAlike (getActiveUser userId) (getActiveUser userId) ctx db db' := by
  refine Coupled.bind ((Blind.orRaise userId _) ctx db db' h) fun text _ t t' htext => ?_
  obtain ⟨rfl, h⟩ := htext
  refine Coupled.bind ((Blind.orRaise (UUID.parse text) _) ctx t t' h) fun id _ t t' hid => ?_
  obtain ⟨rfl, h⟩ := hid
  refine (UserRepository.coupled_getById h).bind fun o o' t t' ho => ?_
  refine (coupled_orRaise ho).bind fun user user' t t' huser => ?_
  have hactive : user.isActive = user'.isActive := User.eq_of_masked (fun _ => rfl) huser.1
  rw [← hactive]
  exact (Coupled.raiseIf (Q := fun _ _ t t' => MaskedAlike user user' t t') huser).bind fun _ _ _ _ h => .pure h

theorem unseeing_getMe (userId : String) : Unseeing (getMe userId) := by
  intro ctx db db' h
  refine (coupled_getActiveUser h).bind fun user user' t t' huser => .pure ⟨?_, huser.2⟩
  exact User.eq_of_masked (f := profileFrom) (fun _ => rfl) huser.1

end AuthService

/-- The record of a token without the hash of its user. -/
def Minted.masked (m : Minted) : Minted := { m with user := m.user.masked }

/-- The same tokens, apart from the hashes in their records, and such stores. -/
def SameTokens (minted minted' : List Minted) (db db' : Db) : Prop :=
  minted.map Minted.masked = minted'.map Minted.masked ∧ db.Alike db'

theorem coupled_mintFor {k : Nat} (h : MaskedAlike u u' db db') :
    Coupled SameTokens (mintFor k u) (mintFor k u') ctx db db' := by
  let tokens (u : User) : TokenResult :=
    ⟨ctx.jwtEncode (ctx.payload k u .access), ctx.jwtEncode (ctx.payload (k + 1) u .refresh), "bearer"⟩
  have hruns (u : User) (db : Db) : (mintFor k u).Runs ctx db (ctx.minted k u (tokens u)) db := rfl
  refine .of_runs (hruns u db) (hruns u' db') ⟨?_, h.2⟩
  exact User.eq_of_masked (f := fun u => (ctx.minted k u (tokens u)).map Minted.masked) (fun _ => rfl) h.1

/-! ### The login -/

/-- What `bcrypt.checkpw` says of a password, against the hash of the user with the email. -/
def Db.verdict (v : Verifier) (db : Db) (email password : String) : Option (Option Bool) :=
  ((db.users.rows.find? fun u => u.email = email).bind User.passwordHash).map (v.checkpw password)

theorem Db.Alike.find_cases (h : db.Alike db') (email : String) :
    (db.users.rows.find? (fun u => u.email = email) = none ∧ db'.users.rows.find? (fun u => u.email = email) = none) ∨
      ∃ u u' hash hash', db.users.rows.find? (fun u => u.email = email) = some u ∧
        db'.users.rows.find? (fun u => u.email = email) = some u' ∧ u.masked = u'.masked ∧
        u.passwordHash = some hash ∧ u'.passwordHash = some hash' := by
  have hfind := h.find? (p := fun u => u.email = email) fun _ => rfl
  cases hu : db.users.rows.find? (fun u => u.email = email) with
  | none =>
    rw [hu, eq_comm, Option.map_none, Option.map_eq_none_iff] at hfind
    exact .inl ⟨rfl, hfind⟩
  | some u =>
    rw [hu] at hfind
    obtain ⟨u', hu', hmasked⟩ := Option.map_eq_some_iff.mp hfind.symm
    obtain ⟨hash, hhash⟩ := Option.ne_none_iff_exists'.mp (h.hashed u (List.mem_of_find?_eq_some hu)).1
    obtain ⟨hash', hhash'⟩ := Option.ne_none_iff_exists'.mp (h.hashed' u' (List.mem_of_find?_eq_some hu')).1
    exact .inr ⟨u, u', hash, hash', rfl, hu', hmasked.symm, hhash, hhash'⟩

theorem Db.verdict_eq {hash : String} (hu : db.users.rows.find? (fun u => u.email = email) = some u)
    (hhash : u.passwordHash = some hash) : db.verdict v email password = some (v.checkpw password hash) := by
  rw [Db.verdict, hu, Option.bind_some, hhash, Option.map_some]

namespace AuthService

/-- What a login makes of the verdict. -/
def decision (u : User) : Option Bool → Except Failure User
  | none => .error .valueError
  | some false => .error (unauthorizedException "Invalid email or password.")
  | some true => if u.isActive then .ok u else .error (unauthorizedException "This account is inactive.")

theorem authenticatedUser_eq {hash : String} (hu : db.users.rows.find? (fun u => u.email = email) = some u)
    (hhash : u.passwordHash = some hash) :
    authenticatedUser v email password ctx db = (decision u (v.checkpw password hash)).map fun user => (user, db) := by
  have hfails (e : Failure) (h : (authenticatedUser v email password).Fails ctx db e) :
      authenticatedUser v email password ctx db = .error e := h
  cases hcheck : v.checkpw password hash with
  | none =>
    refine hfails _ ?_
    simp [authenticatedUser, verifyPassword, hu, hhash, hcheck]
  | some verified =>
    cases verified with
    | false =>
      refine hfails _ ?_
      simp [authenticatedUser, verifyPassword, hu, hhash, hcheck]
    | true =>
      by_cases hactive : u.isActive = true
      · rw [decision, if_pos hactive]
        exact runs_authenticatedUser.mpr ⟨hu, ⟨hash, hhash, hcheck⟩, hactive, rfl⟩
      · rw [decision, if_neg hactive]
        refine hfails _ ?_
        simp [authenticatedUser, verifyPassword, hu, hhash, hcheck, hactive]

/-- A login reads the hash for its verdict alone. -/
theorem coupled_authenticatedUser (h : db.Alike db')
    (hverdict : db.verdict v email password = db'.verdict v email password) :
    Coupled MaskedAlike (authenticatedUser v email password) (authenticatedUser v email password) ctx db db' := by
  rcases h.find_cases email with ⟨hu, hu'⟩ | ⟨u, u', hash, hash', hu, hu', hmasked, hhash, hhash'⟩
  · have hfails {db : Db} (hu : db.users.rows.find? (fun u => u.email = email) = none) :
        (authenticatedUser v email password).Fails ctx db (unauthorizedException "Invalid email or password.") := by
      simp [authenticatedUser, hu]
    exact .of_fails (hfails hu) (hfails hu')
  · rw [Db.verdict_eq hu hhash, Db.verdict_eq hu' hhash', Option.some_inj] at hverdict
    have hactive : u.isActive = u'.isActive := User.eq_of_masked (fun _ => rfl) hmasked
    unfold Coupled
    rw [authenticatedUser_eq hu hhash, authenticatedUser_eq hu' hhash', ← hverdict]
    rcases v.checkpw password hash with _ | _ | _
    · rfl
    · rfl
    · rw [decision, decision, hactive]
      split_ifs
      · exact ⟨hmasked, h⟩
      · rfl

end AuthService

/-! ### The endpoints -/

/-- `bcrypt` says the same of the password, if the request is a login. -/
def HttpRequest.SameVerdict (v : Verifier) (request : HttpRequest) (db db' : Db) : Prop :=
  ∀ email password, request.target = .auth (.login email password) →
    db.verdict v email password = db'.verdict v email password

theorem Route.unseeing_endpoint (route : Route) : Blind Db.Alike (route.endpoint v bearer) := by
  have hop (user : TokenPayload) : Unseeing (route.call.op user) := by
    cases route.call with
    | asActor op => exact (Blind.orRaise _ _).bind fun _ => .pure _
    | plain op => exact .pure _
  refine ((unseeing_requireItAdmin bearer).embed _).bind fun user => (Blind.raiseIf _ _).bind fun _ => ?_
  exact ((hop user).embed _).bind fun op => (op.unseeing_run.embed _).bind fun _ => .pure _

theorem View.coupled_endpoint {collation : Like.Collation} (view : View collation) (h : db.Alike db') :
    Coupled (fun answer answer' t t' => answer = answer' ∧ t.Alike t') (view.endpoint v bearer)
      (view.endpoint v bearer) ctx db db' := by
  refine Coupled.bind ((unseeing_requireItAdmin bearer).embed _ ctx db db' h) ?_
  rintro user _ t t' ⟨rfl, h⟩
  refine Coupled.bind (Blind.raiseIf _ _ ctx t t' h) ?_
  rintro - - t t' ⟨-, h⟩
  exact (view.coupled_run h).embed.bind fun _ _ _ _ h => .pure ⟨rfl, h⟩

theorem AuthRoute.coupled_tokens {route : AuthRoute} (h : db.Alike db')
    (hlogin : ∀ email password, route = .login email password →
      db.verdict v email password = db'.verdict v email password) :
    Coupled SameTokens (route.tokens v bearer) (route.tokens v bearer) ctx db db' := by
  cases route with
  | register name email role password =>
    refine Coupled.bind (UserService.unseeing_insertUser name email role password ctx db db' h) ?_
    rintro user _ t t' ⟨rfl, h⟩
    exact coupled_mintFor ⟨rfl, h⟩
  | login email password =>
    exact (AuthService.coupled_authenticatedUser h (hlogin _ _ rfl)).bind fun _ _ _ _ => coupled_mintFor
  | refresh token =>
    have huser : Coupled MaskedAlike (AuthService.refreshedUser v token) (AuthService.refreshedUser v token)
        ctx db db' := by
      refine Coupled.bind (unseeing_decodeToken 0 token _ ctx db db' h) ?_
      rintro claims _ t t' ⟨rfl, h⟩
      exact AuthService.coupled_getActiveUser h
    exact huser.bind fun _ _ _ _ => coupled_mintFor
  | me =>
    refine Coupled.bind (unseeing_getCurrentUser bearer ctx db db' h) ?_
    rintro user _ t t' ⟨rfl, h⟩
    exact (AuthService.unseeing_getMe _ ctx t t' h).bind fun _ _ _ _ hme => .pure ⟨rfl, hme.2⟩

/-- **One request** cannot tell the stores apart, unless it is a login that is decided otherwise. -/
theorem HttpRequest.coupled_endpoint {request : HttpRequest} (h : db.Alike db')
    (hverdict : request.SameVerdict v db db') :
    Coupled (fun answer answer' t t' => answer.1 = answer'.1 ∧ SameTokens answer.2 answer'.2 t t')
      (request.target.endpoint v request.bearer) (request.target.endpoint v request.bearer) request.ctx db db' := by
  unfold HttpRequest.SameVerdict at hverdict
  cases htarget : request.target with
  | admin route =>
    refine Coupled.bind (Route.unseeing_endpoint route _ db db' h) ?_
    rintro answer _ t t' ⟨rfl, h⟩
    exact .pure ⟨rfl, rfl, h⟩
  | auth route =>
    refine (Coupled.raiseIf (Q := fun _ _ t t' => t = db ∧ t' = db') ⟨rfl, rfl⟩).bind ?_
    rintro - - t t' ⟨rfl, rfl⟩
    have hlogin (email password : String) (hroute : route = .login email password) :
        t.verdict v email password = t'.verdict v email password := hverdict _ _ (hroute ▸ htarget)
    exact (AuthRoute.coupled_tokens h hlogin).embed.bind fun _ _ _ _ hminted => .pure ⟨rfl, hminted⟩
  | read collation view =>
    refine Coupled.bind (View.coupled_endpoint view h) ?_
    rintro answer _ t t' ⟨rfl, h⟩
    exact .pure ⟨rfl, rfl, h⟩
  | framework error => exact .of_fails rfl rfl

/-! ### Runs -/

/-- The same state, apart from password hashes. -/
structure ApiState.Alike (s s' : ApiState) : Prop where
  db : s.db.Alike s'.db
  minted : s.minted.map Minted.masked = s'.minted.map Minted.masked
  requestId : s.requestId = s'.requestId

/-- No login is decided otherwise. -/
def ApiEvent.SameVerdict (v : Verifier) (s : ApiState × ApiState) : ApiEvent → Prop
  | .http request => request.SameVerdict v s.1.db s.2.db
  | .portal _ _ => True

variable {s s' : ApiState} {request : HttpRequest} {e : ApiEvent}

theorem HttpRequest.respond_eq (h : db.Alike db') (hverdict : request.SameVerdict v db db') :
    request.respond v db = request.respond v db' := by
  unfold HttpRequest.respond
  congr 1
  rcases coupled_iff.mp (HttpRequest.coupled_endpoint h hverdict) with
    ⟨answer, t, answer', t', hruns, hruns', hanswer, -⟩ | ⟨e, hfails, hfails'⟩
  · rw [show _ = Except.ok (answer, t) from hruns, show _ = Except.ok (answer', t') from hruns']
    exact congrArg Except.ok hanswer
  · rw [show _ = Except.error e from hfails, show _ = Except.error e from hfails']

theorem ApiState.Alike.exec (h : s.Alike s') (hverdict : e.SameVerdict v (s, s')) :
    (e.exec v s).Alike (e.exec v s') := by
  cases e with
  | http request =>
    have hrespond := HttpRequest.respond_eq h.db hverdict
    rcases coupled_iff.mp (HttpRequest.coupled_endpoint h.db hverdict) with
      ⟨⟨_, minted⟩, t, ⟨_, minted'⟩, t', hruns, hruns', -, hminted, hdb⟩ | ⟨e, hfails, hfails'⟩
    · rw [ApiEvent.exec_of_runs request hruns, ApiEvent.exec_of_runs request hruns', hrespond]
      refine ⟨hdb, ?_, rfl⟩
      rw [List.map_append, List.map_append, h.minted, hminted]
    · rw [ApiEvent.exec, ApiEvent.exec, show _ = Except.error e from hfails, show _ = Except.error e from hfails',
        hrespond]
      exact ⟨h.db, h.minted, rfl⟩
  | portal ctx step => exact ⟨step.unseeing_run.exec h.db, h.minted, h.requestId⟩

namespace Sample

end Sample

end AssetPilot
