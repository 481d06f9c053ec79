import AssetPilot.Api.Routers
import AssetPilot.Auth.Escalation
import AssetPilot.Invariants.Audit
import AssetPilot.Invariants.History

/-!
# The system behind HTTP

An event is an HTTP request, or a step of the employees' side beside it. A state has the database, every token that
was handed out, and the context variable of the request id. A run of requests that come with no forged token is a
run of the services underneath, in which every payload is admitted and every caller is a stored user: what holds of
such runs holds behind the endpoints.
-/

namespace AssetPilot

open Relational System Txn

/-- What a request is for. The framework answers what no endpoint takes. -/
inductive Target
  | admin (route : Route)
  | read (collation : Like.Collation) (view : View collation)
  | auth (route : AuthRoute)
  | framework (error : FrameworkError)

def Target.endpoint (v : Verifier) (bearer : Option String) : Target → Endpoint ((Nat × String) × List Minted)
  | admin route => do
    let answer ← route.endpoint v bearer
    return (answer, [])
  | read _ view => do
    let answer ← view.endpoint v bearer
    return (answer, [])
  | auth route => route.endpoint v bearer
  | framework error => raise (.httpException error.statusCode (some error.detail))

/-- A request: its two headers, its target, and what answering it reads from outside. -/
structure HttpRequest where
  ctx : Ctx
  requestIdHeader : Option String
  requestUuid : UUID
  answeredAt : Datetime
  bearer : Option String
  target : Target

/-- The request id that is bound for the request. -/
def HttpRequest.requestId (request : HttpRequest) : String :=
  requestIdOf request.requestIdHeader request.requestUuid

/-- The response, and the context variable after it. -/
def HttpRequest.respond (v : Verifier) (request : HttpRequest) (db : Db) : Response × Option String :=
  dispatch request.requestId request.answeredAt
    ((request.target.endpoint v request.bearer request.ctx db).map fun answer => answer.1.1)

inductive ApiEvent
  | http (request : HttpRequest)
  | portal (ctx : Ctx) (step : PortalStep)

structure ApiState where
  db : Db
  minted : List Minted
  requestId : Option String

/-- A request that raises leaves the database and the tokens. -/
def ApiEvent.exec (v : Verifier) (s : ApiState) : ApiEvent → ApiState
  | .http request =>
    match request.target.endpoint v request.bearer request.ctx s.db with
    | .ok ((_, minted), db) =>
      { db := db, minted := s.minted ++ minted, requestId := (request.respond v s.db).2 }
    | .error _ => { s with requestId := (request.respond v s.db).2 }
  | .portal ctx step => { s with db := step.run.exec ctx s.db }

def ApiStep (v : Verifier) (s : ApiState) (e : ApiEvent) (s' : ApiState) : Prop := s' = e.exec v s

/-- A text that is signed for the issuer was handed out. -/
def ApiState.Unforged (s : ApiState) (encode : JwtPayload → String) (issuer token : String) : Prop :=
  ∀ p : JwtPayload, p.iss = issuer → token = encode p → ∃ m ∈ s.minted, m.text = token

/-- A request in the deployment, with no forged token. -/
def ApiEvent.Honest (encode : JwtPayload → String) (issuer : String) (s : ApiState) : ApiEvent → Prop
  | .http request => request.ctx.Deployed encode issuer ∧
      ∀ token ∈ request.bearer, s.Unforged encode issuer token
  | .portal _ _ => True

variable {v : Verifier} {encode : JwtPayload → String} {timely : Int → Datetime → Prop} {issuer : String} {ctx : Ctx}
  {db db' : Db} {start s s' : ApiState} {e : ApiEvent} {minted : List Minted} {bearer : Option String}
  {user : TokenPayload}

/-! ### One event -/

/-- What an event does to the database and to the tokens. -/
inductive ApiEvent.Effect (v : Verifier) (s : ApiState) : ApiEvent → ApiState → Prop
  | nothing {e : ApiEvent} {s' : ApiState} (hdb : s'.db = s.db) (hminted : s'.minted = s.minted) : Effect v s e s'
  | admin {request : HttpRequest} {s' : ApiState} {route : Route} {user : TokenPayload} {op : Op}
      (htarget : request.target = .admin route)
      (hgate : (requireItAdmin v request.bearer).Runs request.ctx s.db user s.db) (hissues : route.issues = [])
      (hcalls : route.call.Calls user op) (hop : op.run.Runs request.ctx s.db () s'.db)
      (hminted : s'.minted = s.minted) : Effect v s (.http request) s'
  | auth {request : HttpRequest} {s' : ApiState} {route : AuthRoute} {minted : List Minted}
      (htarget : request.target = .auth route) (hissues : route.issues = [])
      (htokens : (route.tokens v request.bearer).Runs request.ctx s.db minted s'.db)
      (hminted : s'.minted = s.minted ++ minted) : Effect v s (.http request) s'
  | portal {ctx : Ctx} {step : PortalStep} {s' : ApiState} (hstep : step.run.Runs ctx s.db () s'.db)
      (hminted : s'.minted = s.minted) : Effect v s (.portal ctx step) s'

theorem ApiStep.effect (h : ApiStep v s e s') : e.Effect v s s' := by
  unfold ApiStep at h
  subst h
  cases e with
  | http request =>
    rw [ApiEvent.exec]
    split
    · next answer minted db hruns =>
      have hruns : (request.target.endpoint v request.bearer).Runs request.ctx s.db (answer, minted) db := hruns
      cases htarget : request.target with
      | admin route =>
        simp only [htarget, Target.endpoint, runs_bind, runs_pure, Route.runs_endpoint] at hruns
        obtain ⟨_, _, ⟨user, op, hgate, hissues, hcalls, hop, -⟩, hanswer, rfl⟩ := hruns
        obtain ⟨-, rfl⟩ := Prod.mk.inj hanswer
        exact .admin htarget hgate hissues hcalls hop (List.append_nil _)
      | read collation view =>
        simp only [htarget, Target.endpoint, runs_bind, runs_pure] at hruns
        obtain ⟨_, _, hview, hanswer, rfl⟩ := hruns
        obtain ⟨-, rfl⟩ := Prod.mk.inj hanswer
        exact .nothing (View.runs_endpoint hview) (List.append_nil _)
      | auth route =>
        simp only [htarget, Target.endpoint, AuthRoute.runs_endpoint] at hruns
        exact .auth htarget hruns.1 hruns.2.2 rfl
      | framework error =>
        simp only [htarget, Target.endpoint, runs_raise] at hruns
    · exact .nothing rfl rfl
  | portal ctx step =>
    rcases step.run.exec_cases ctx s.db with h | ⟨⟨⟩, h⟩
    · exact .nothing h rfl
    · exact .portal h rfl

theorem ApiEvent.exec_of_runs (request : HttpRequest) {answer : Nat × String}
    (h : (request.target.endpoint v request.bearer).Runs request.ctx s.db (answer, minted) db') :
    (ApiEvent.http request).exec v s =
      { db := db', minted := s.minted ++ minted, requestId := (request.respond v s.db).2 } := by
  rw [Txn.Runs] at h
  rw [ApiEvent.exec, h]

/-- A registration is a call of the system, and the other calls of `auth.py` write nothing. -/
theorem AuthRoute.tokens_db {route : AuthRoute} (h : (route.tokens v bearer).Runs ctx db minted db') :
    db' = db ∨ ∃ name email role password, route = .register name email role password ∧
      (Op.register name email role password).run.Runs ctx db () db' := by
  cases route with
  | register name email role password =>
    refine .inr ⟨name, email, role, password, rfl, runs_discard.mpr ?_⟩
    obtain ⟨user, hinsert, hmint⟩ := AuthCall.runs_mintFor_of h
    obtain ⟨tokens, htokens, -⟩ := runs_mintFor.mp hmint
    refine ⟨tokens, ?_⟩
    rw [AuthService.register_eq]
    exact runs_bind.mpr ⟨user, db', hinsert, htokens⟩
  | login email password =>
    obtain ⟨user, huser, -⟩ := AuthCall.runs_mintFor_of h
    obtain ⟨-, -, -, rfl⟩ := AuthService.runs_authenticatedUser.mp huser
    exact .inl rfl
  | refresh token =>
    obtain ⟨user, huser, -⟩ := AuthCall.runs_mintFor_of h
    obtain ⟨claims, -, -, -, -, -, rfl⟩ := AuthService.runs_refreshedUser.mp huser
    exact .inl rfl
  | me =>
    simp only [tokens, AuthService.getMe, runs_bind, AuthService.runs_getActiveUser, runs_pure] at h
    obtain ⟨user, _, huser, _, _, ⟨_, _, ⟨-, -, -, rfl⟩, -, rfl⟩, -, rfl⟩ := h
    obtain ⟨-, -, -, -, -, -, -, rfl⟩ := runs_getCurrentUser.mp huser
    exact .inl rfl

theorem AuthRoute.tokens_minted {route : AuthRoute} (h : (route.tokens v bearer).Runs ctx db minted db') :
    minted = [] ∨ ∃ k user, (mintFor k user).Runs ctx db' minted db' ∧ user ∈ db'.users.rows ∧
      user.isActive = true := by
  cases route with
  | register name email role password =>
    obtain ⟨user, hinsert, hmint⟩ := AuthCall.runs_mintFor_of h
    refine .inr ⟨0, user, hmint, ((AuthCall.insertUser_adds hinsert).2.2.2 user).mpr (.inr rfl), ?_⟩
    obtain ⟨-, hash, -, -, -, hborn, -⟩ := UserService.runs_insertUser.mp hinsert
    rw [hborn]
    rfl
  | login email password =>
    obtain ⟨user, huser, hmint⟩ := AuthCall.runs_mintFor_of h
    obtain ⟨hfind, -, hactive, rfl⟩ := AuthService.runs_authenticatedUser.mp huser
    exact .inr ⟨0, user, hmint, List.mem_of_find?_eq_some hfind, hactive⟩
  | refresh token =>
    obtain ⟨user, huser, hmint⟩ := AuthCall.runs_mintFor_of h
    obtain ⟨claims, -, -, -, hget, hactive, rfl⟩ := AuthService.runs_refreshedUser.mp huser
    exact .inr ⟨1, user, hmint, Table.get?_mem hget, hactive⟩
  | me =>
    simp only [tokens, runs_bind, runs_pure] at h
    obtain ⟨_, _, -, _, _, -, rfl, -⟩ := h
    exact .inl rfl

theorem ApiEvent.Effect.commits (h : e.Effect v s s') : s'.db = s.db ∨ ∃ e' : Event, e'.Commits s.db s'.db := by
  cases h with
  | nothing hdb => exact .inl hdb
  | admin htarget hgate hissues hcalls hop => exact .inr ⟨_, .service hop⟩
  | auth htarget hissues htokens =>
    rcases AuthRoute.tokens_db htokens with hdb | ⟨name, email, role, password, -, hop⟩
    · exact .inl hdb
    · exact .inr ⟨_, .service hop⟩
  | portal hstep => exact .inr ⟨_, .portal hstep⟩

theorem ApiEvent.Effect.historyKept (h : e.Effect v s s') : HistoryKept s.db s'.db := by
  rcases h.commits with hdb | ⟨e', hcommits⟩
  · exact hdb ▸ Std.Refl.refl s'.db
  · exact hcommits.historyKept

theorem ApiEvent.Effect.minted_cases (h : e.Effect v s s') (hok : e.Honest encode issuer s) {m : Minted}
    (hm : m ∈ s'.minted) : m ∈ s.minted ∨
      m.Genuine encode issuer ∧ m.user ∈ s'.db.users.rows ∧ m.user.isActive = true := by
  cases h with
  | nothing _ hminted => exact .inl (hminted ▸ hm)
  | admin _ _ _ _ _ hminted => exact .inl (hminted ▸ hm)
  | portal _ hminted => exact .inl (hminted ▸ hm)
  | auth htarget hissues htokens hminted =>
    rw [hminted] at hm
    rcases List.mem_append.mp hm with hm | hm
    · exact .inl hm
    · rcases AuthRoute.tokens_minted htokens with rfl | ⟨k, user, hmint, hstored, hactive⟩
      · exact absurd hm List.not_mem_nil
      · obtain ⟨hgenuine, rfl⟩ := genuine_of_mintFor hok.1 hmint m hm
        exact .inr ⟨hgenuine, hstored, hactive⟩

/-! ### The tokens of a run -/

/-- Every token that was handed out is genuine, and its user is stored. -/
structure ApiState.Issued (s : ApiState) (encode : JwtPayload → String) (issuer : String) : Prop where
  genuine : ∀ m ∈ s.minted, m.Genuine encode issuer
  stored : ∀ m ∈ s.minted, s.db.users.get? m.user.id ≠ none

theorem ApiState.Issued.step (h : s.Issued encode issuer) (hok : e.Honest encode issuer s)
    (hstep : ApiStep v s e s') : s'.Issued encode issuer := by
  have heffect := hstep.effect
  constructor <;> intro m hm <;> rcases heffect.minted_cases hok hm with hold | ⟨hgenuine, hmem, -⟩
  · exact h.genuine m hold
  · exact hgenuine
  · exact heffect.historyKept.users.get?_ne_none (h.stored m hold)
  · exact Table.mem_iff_get?.mp hmem ▸ Option.some_ne_none _

theorem issued_of_run (hminted : start.minted = [])
    (run : Run (ApiStep v) (fun s e => e.Honest encode issuer s) start s) : s.Issued encode issuer := by
  refine run.inv (P := fun s => s.Issued encode issuer) (fun _ _ _ h hok hstep => h.step hok hstep) ?_
  constructor <;> simp [hminted]

/-- Who passes a token check was handed that token, for the user that is its subject. -/
theorem ApiState.Issued.of_current (h : s.Issued encode issuer) (hv : v.Decodes encode timely)
    (hctx : ctx.Deployed encode issuer) (hbearer : ∀ token ∈ bearer, s.Unforged encode issuer token)
    (hruns : (getCurrentUser v bearer).Runs ctx db user db') :
    ∃ m ∈ s.minted, bearer = some m.text ∧ m.type = .access ∧ m.Live timely (ctx.clock 0) ∧
      user.subject = m.user.id.str ∧ user.claims.role = some m.user.role.value := by
  obtain ⟨token, rfl, -, hdecode, htype, hsub, -, -⟩ := runs_getCurrentUser.mp hruns
  rw [hctx.issuer] at hdecode
  obtain ⟨m, hm, rfl⟩ := exists_minted (s := ⟨db, s.minted, []⟩) hv (hbearer token rfl) hdecode
  obtain ⟨hlive, hsub', htype', hrole'⟩ := (h.genuine m hm).decoded hv hdecode
  refine ⟨m, hm, rfl, ?_, hlive, Option.some.inj (hsub.symm.trans hsub'), hrole'⟩
  have hvalue : m.type.value = TokenType.access.value := Option.some.inj (htype'.symm.trans htype)
  cases htype : m.type with
  | access => rfl
  | refresh =>
    rw [htype] at hvalue
    exact absurd hvalue (by decide)

/-- A call that names its actor passes him on. -/
def ActorCall.Passes : ActorCall → Prop
  | asActor op => ∀ actorId, (op actorId).caller = some actorId
  | plain op => op.caller = none

theorem Route.passes (route : Route) : route.call.Passes := by
  cases route <;> first | exact fun _ => rfl | rfl

theorem ActorCall.Calls.caller {call : ActorCall} {op : Op} (h : call.Calls user op) (hpasses : call.Passes) {u : UUID}
    (hu : u ∈ op.caller) : UUID.parse user.subject = some u := by
  cases h with
  | @asActor op actorId hparse =>
    rw [show (op actorId).caller = some actorId from hpasses actorId] at hu
    obtain rfl := Option.some.inj hu
    exact hparse
  | plain =>
    rw [show op.caller = none from hpasses] at hu
    exact absurd hu (Option.not_mem_none u)

theorem ApiState.Issued.caller_stored (h : s.Issued encode issuer) (hv : v.Decodes encode timely)
    (hctx : ctx.Deployed encode issuer) (hbearer : ∀ token ∈ bearer, s.Unforged encode issuer token)
    (hgate : (requireItAdmin v bearer).Runs ctx db user db') {route : Route} {op : Op}
    (hcalls : route.call.Calls user op) : s.db.users.References op.caller := by
  intro u hu
  obtain ⟨m, hm, -, -, -, hsubject, -⟩ := h.of_current hv hctx hbearer (runs_requireItAdmin.mp hgate).1
  have hparse := hcalls.caller route.passes hu
  rw [hsubject, UUID.parse_str] at hparse
  obtain rfl := Option.some.inj hparse
  exact h.stored m hm

/-! ### Refinement -/

/-- What stands between the services and their callers: an admitted payload, and a caller who is stored. -/
def Event.Guarded (db : Db) : Event → Prop
  | .service _ op => op.Admitted ∧ db.users.References op.caller
  | .portal _ _ => True

/-- **One event** is at most one call of a service. -/
theorem ApiStep.refines (hv : v.Decodes encode timely) (hissued : s.Issued encode issuer)
    (hok : e.Honest encode issuer s) (hstep : ApiStep v s e s') :
    s'.db = s.db ∨ ∃ e', Event.Guarded s.db e' ∧ Step s.db e' s'.db := by
  cases hstep.effect with
  | nothing hdb => exact .inl hdb
  | admin htarget hgate hissues hcalls hop =>
    refine .inr ⟨.service _ _, ⟨Route.admitted hissues hcalls, ?_⟩, hop.exec⟩
    exact hissued.caller_stored hv hok.1 hok.2 hgate hcalls
  | auth htarget hissues htokens =>
    rcases AuthRoute.tokens_db htokens with hdb | ⟨name, email, role, password, rfl, hop⟩
    · exact .inl hdb
    · have hpassword : RegisterRequest password := issueUnless_eq_nil.mp hissues
      exact .inr ⟨.service _ (.register name email role password), ⟨hpassword, Table.references_none⟩, hop.exec⟩
  | portal hstep => exact .inr ⟨.portal _ _, trivial, hstep.exec⟩

/-- **The endpoints refine the services**: whatever requests come, in whatever order, the database goes through a
run of the services in which every payload is admitted and every caller is a stored user. -/
theorem refines_of_run (hv : v.Decodes encode timely) (hminted : start.minted = [])
    (run : Run (ApiStep v) (fun s e => e.Honest encode issuer s) start s) :
    Run Step (fun db e => e.Guarded db) start.db s.db := by
  induction run with
  | refl => exact .refl
  | step run e hok hstep ih =>
    rcases hstep.refines hv (issued_of_run hminted run) hok with hdb | ⟨e', hguarded, hstep'⟩
    · exact hdb ▸ ih
    · exact ih.step e' hguarded hstep'

/-! ### Requests to a small deployment -/

namespace Sample

/-- A request under the small key. -/
def httpRequest (bearer : Option String) (target : Target) : HttpRequest where
  ctx := keyed
  requestIdHeader := none
  requestUuid := 1
  answeredAt := 5
  bearer := bearer
  target := target

def http (bearer : Option String) (target : Target) : ApiEvent := .http (httpRequest bearer target)

/-- User 9 is the administrator, and nobody has a token. -/
def api : ApiState where
  db := administered.db
  minted := []
  requestId := none

/-- The administrator logs in. -/
def loggedIn : ApiState := (http none (.auth (.login "it@example.com" "hash"))).exec verifier api

theorem loggedIn_run : Run (ApiStep verifier) (fun s e => e.Honest sign "asset-pilot" s) api loggedIn :=
  .step .refl (http none (.auth (.login "it@example.com" "hash"))) ⟨keyed_deployed, nofun⟩ rfl

theorem loggedIn_unforged : loggedIn.Unforged sign "asset-pilot" (accessToken admin) :=
  fun _ _ _ => ⟨_, List.mem_cons_self, rfl⟩

/-- The administrator sends laptop 2 to repair. -/
def repair : ApiEvent := http (some (accessToken admin)) (.admin (.changeItemStatus 2 .underRepair none))

theorem repair_run : Run (ApiStep verifier) (fun s e => e.Honest sign "asset-pilot" s) api
    (repair.exec verifier loggedIn) := by
  refine loggedIn_run.step repair ⟨keyed_deployed, fun token htoken => ?_⟩ rfl
  obtain rfl := Option.some.inj htoken
  exact loggedIn_unforged

end Sample

/-- A login and a call behind the gate. -/
theorem refines_of_run_repair : Run Step (fun db e => e.Guarded db) Sample.api.db
    (Sample.repair.exec Sample.verifier Sample.loggedIn).db :=
  refines_of_run Sample.verifier_decodes rfl Sample.repair_run

end AssetPilot
