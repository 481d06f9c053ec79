import AssetPilot.Api.System
import AssetPilot.Auth.RoundTrip
import AssetPilot.Invariants.Failures

/-!
# What a request is answered

A service raises a domain exception with the code of its status, or something that no handler of its own takes.
So every request is answered with a well-formed envelope, and one that is not a success has written nothing. The
second half says which requests are answered with an internal error, from any state of a run.
-/

namespace AssetPilot

open Relational System Txn
open SQLAlchemyRepository (born flushed)
open DeviceLogService (AppendArgs)

variable {v : Verifier} {ctx : Ctx} {db : Db}

/-! ### What a service raises -/

namespace Failure

@[simp] theorem coded_validation (m : String) : (validationException m).Coded := by
  simp [validationException, Coded, _ERROR_CODES]

@[simp] theorem coded_unauthorized (m : String) : (unauthorizedException m).Coded := by
  simp [unauthorizedException, Coded, _ERROR_CODES]

@[simp] theorem coded_forbidden (m : String) : (forbiddenException m).Coded := by
  simp [forbiddenException, Coded, _ERROR_CODES]

@[simp] theorem coded_notFound (m : String) : (notFoundException m).Coded := by
  simp [notFoundException, Coded, _ERROR_CODES]

@[simp] theorem coded_conflict (m : String) : (conflictException m).Coded := by
  simp [conflictException, Coded, _ERROR_CODES]

@[simp] theorem coded_assertionError : Failure.assertionError.Coded := trivial

@[simp] theorem coded_valueError : Failure.valueError.Coded := trivial

@[simp] theorem coded_integrityErrorAsConflict {m : String} {f : Failure} :
    (integrityErrorAsConflict m f).Coded ↔ f.Coded := by
  cases f <;> simp [integrityErrorAsConflict, Coded, conflictException, _ERROR_CODES]

end Failure

theorem constraintCheck_coded {fits integral : Prop} [Decidable fits] [Decidable integral] (e : Failure)
    (h : constraintCheck fits integral = .error e) : e.Coded := by
  rcases constraintCheck_error.mp h with ⟨-, rfl⟩ | ⟨-, -, rfl⟩ <;> trivial

/-- Whatever the outcome, a domain exception has the code of its status. -/
abbrev Codes {α : Type} (x : Service α) (ctx : Ctx) (db : Db) : Prop :=
  wp Failure.Coded (fun _ _ => True) x ctx db

section
variable {α : Type} [Keyed α UUID] [Model α] {x : α}

theorem create_coded (hcheck : ∀ e, Model.constraints db (born ctx x) = .error e → e.Coded) :
    Codes (SQLAlchemyRepository.create x) ctx db := by
  refine SQLAlchemyRepository.wp_create.mpr ⟨fun _ => trivial, fun _ => ⟨hcheck, fun _ => trivial⟩⟩

theorem update_coded [DecidableEq α] (hcheck : ∀ e, Model.constraints db (flushed ctx db x) = .error e → e.Coded) :
    Codes (SQLAlchemyRepository.update x) ctx db :=
  SQLAlchemyRepository.wp_update.mpr ⟨hcheck, fun _ => trivial⟩

end

@[simp] theorem UserRepository.coded_create {u : User} : Codes (create u) ctx db :=
  create_coded constraintCheck_coded

@[simp] theorem UserRepository.coded_update {u : User} : Codes (update u) ctx db :=
  update_coded constraintCheck_coded

@[simp] theorem ItemRepository.coded_create {i : Item} : Codes (create i) ctx db :=
  create_coded constraintCheck_coded

@[simp] theorem ItemRepository.coded_update {i : Item} : Codes (update i) ctx db :=
  update_coded constraintCheck_coded

@[simp] theorem RequestRepository.coded_create {r : Request} : Codes (create r) ctx db :=
  create_coded constraintCheck_coded

@[simp] theorem RequestRepository.coded_update {r : Request} : Codes (update r) ctx db :=
  update_coded constraintCheck_coded

@[simp] theorem SupportRequestRepository.coded_update {t : SupportRequest} : Codes (update t) ctx db :=
  update_coded constraintCheck_coded

@[simp] theorem ExtensionRequestRepository.coded_update {x : ExtensionRequest} : Codes (update x) ctx db :=
  update_coded constraintCheck_coded

@[simp] theorem DeviceLogService.coded_append {a : AppendArgs} : Codes (append a) ctx db := by
  simp only [append, DeviceLogRepository.create, Codes, wp_bind, wp_ask, wp_get, wp_check, wp_modify, wp_pure,
    implies_true, and_true]
  exact constraintCheck_coded

theorem InventoryService.editItem_coded {itemId actorId : UUID} {updates : ItemUpdates} :
    Codes (editItem itemId updates actorId) ctx db := by
  have hlog : ∀ db id changes, Codes (logChanges id actorId changes) ctx db := by
    intro db id changes
    cases changes <;> simp [logChanges]
  have hcategory : Codes (checkCategory updates.categoryId) ctx db := by
    cases updates.categoryId <;> simp [checkCategory]
  simp [editItem, getItemOr404, hlog, hcategory]

theorem RequestService.escalateToManager_coded {requestId : UUID} {managerId : Option UUID} :
    Codes (escalateToManager requestId managerId) ctx db := by
  cases managerId <;> simp [escalateToManager, getRequestOr404, resolveManager]

theorem ShippingService.completeReturn_coded {requestId actorId : UUID} {next : DeviceStatus} :
    Codes (completeReturn requestId next actorId) ctx db := by
  have hclose : ∀ db itemId, Codes (autoCloseOpenSupport itemId) ctx db := by
    intro db itemId
    exact wp_forEach (P := fun _ => True) (fun _ _ _ _ _ => by simp [closeTicket]) trivial 1
  simp [completeReturn, getRequestOr404, getAssignedItemOr404, hclose]

namespace SupportService

theorem start_coded {ticketId actorId : UUID} : Codes (start ticketId actorId) ctx db := by
  have hrepair : ∀ db t, Codes (startRepair t actorId) ctx db := by
    intro db t
    unfold startRepair
    split <;> simp [getItemOr404]
  simp [start, getTicketOr404, hrepair]

theorem resolve_coded {ticketId actorId : UUID} {resolution : SupportResolution} {note : Option String}
    {newId : Option UUID} {next : Option DeviceStatus} :
    Codes (resolve ticketId resolution note newId next actorId) ctx db := by
  have happly : ∀ t i, Codes (applyResolution t i resolution newId next actorId) ctx db := by
    intro t i
    cases resolution <;> simp [applyResolution, repairInPlace, swap, markLost, getItemOr404]
  simp [resolve, getTicketOr404, getItemOr404, happly]

end SupportService

/-- **A domain exception has the code of its status**, whichever operation raises it. -/
theorem Op.coded {op : Op} : Codes op.run ctx db := by
  cases op <;> simp only [Codes, Op.run, discard, wp_bind, wp_pure]
  case createItem => simp [InventoryService.createItem]
  case editItem => exact InventoryService.editItem_coded
  case changeStatus => simp [InventoryService.changeStatus, InventoryService.getItemOr404]
  case updateBookingRange => simp [AssignmentService.updateBookingRange, AssignmentService.getRequestOr404]
  case assign =>
    simp [AssignmentService.assign, AssignmentService.getRequestOr404, AssignmentService.getItemOr404]
  case directAssign => simp [AssignmentService.directAssign, AssignmentService.getItemOr404]
  case reject => simp [RequestService.reject, RequestService.getRequestOr404]
  case cancel => simp [RequestService.cancel, RequestService.getRequestOr404]
  case escalateToManager => exact RequestService.escalateToManager_coded
  case ship =>
    simp [ShippingService.ship, ShippingService.getRequestOr404, ShippingService.getAssignedItemOr404]
  case confirmDelivery =>
    simp [ShippingService.confirmDelivery, ShippingService.getRequestOr404, ShippingService.getAssignedItemOr404]
  case completeReturn => exact ShippingService.completeReturn_coded
  case start => exact SupportService.start_coded
  case resolve => exact SupportService.resolve_coded
  case approveExtension =>
    simp [ExtensionService.approve, ExtensionService.getExtensionOr404, ExtensionService.getParentRequestOr404]
  case rejectExtension =>
    simp [ExtensionService.reject, ExtensionService.getExtensionOr404, ExtensionService.getParentRequestOr404]
  case createUser => simp [UserService.createUser, UserService.insertUser, hashPassword]
  case changeRole => simp [UserService.changeRole, UserService.getUserOr404]
  case deactivate => simp [UserService.deactivate, UserService.getUserOr404]
  case activate => simp [UserService.activate, UserService.getUserOr404]
  case register =>
    simp [AuthService.register, UserService.insertUser, hashPassword, createAccessToken, createRefreshToken,
      createToken]

/-! ### Who asks -/

variable {bearer : Option String} {k : Nat} {token : String} {type : TokenType}

@[simp] theorem decodeToken_coded : Codes (decodeToken v k token (some type)) ctx db := by
  simp only [Codes, decodeToken, wp_bind, wp_ask, wp_utcNow, wp_raiseIf, wp_pure, Failure.coded_unauthorized,
    implies_true, and_true]
  rcases v.jwtDecode (ctx.clock k) ctx.settings.jwtIssuer token with (_ | _) | claims
  · exact Failure.coded_unauthorized _
  · exact Failure.coded_unauthorized _
  · exact trivial

@[simp] theorem getCurrentUser_coded : Codes (getCurrentUser v bearer) ctx db := by
  simp [getCurrentUser]

theorem requireItAdmin_coded : Codes (requireItAdmin v bearer) ctx db := by
  simp [requireItAdmin]

@[simp] theorem AuthService.getActiveUser_coded {userId : Option String} : Codes (getActiveUser userId) ctx db := by
  simp [getActiveUser]

@[simp] theorem mintFor_coded {user : User} : Codes (mintFor k user) ctx db := trivial

theorem AuthRoute.tokens_coded {route : AuthRoute} : Codes (route.tokens v bearer) ctx db := by
  cases route with
  | register name email role password => simp [tokens, AuthCall.run, UserService.insertUser, hashPassword]
  | login email password => simp [tokens, AuthCall.run, AuthService.authenticatedUser, verifyPassword]
  | refresh refreshToken => simp [tokens, AuthCall.run, AuthService.refreshedUser]
  | me => simp [tokens, AuthService.getMe]

/-! ### One envelope -/

theorem Target.endpoint_coded {target : Target} :
    wp ApiError.Coded (fun answer _ => answer.1.1 = 200 ∨ answer.1.1 = 201) (target.endpoint v bearer) ctx db := by
  cases target with
  | admin route =>
    have hop : ∀ user db, Codes (route.call.op user) ctx db := by
      intro user db
      cases route.call <;> simp [ActorCall.op]
    simp only [endpoint, Route.endpoint, service, wp_bind, wp_embed, wp_raiseIf, wp_pure, ApiError.Coded,
      implies_true, true_and, route.success_status]
    refine wp_iff.mpr ⟨(wp_iff.mp requireItAdmin_coded).1, fun user s _ _ => ?_⟩
    exact wp_iff.mpr ⟨(wp_iff.mp (hop user s)).1, fun op s' _ => Op.coded⟩
  | read collation view =>
    simp only [endpoint, View.endpoint, service, wp_bind, wp_embed, wp_raiseIf, wp_pure, ApiError.Coded,
      implies_true, true_and, true_or]
    refine wp_iff.mpr ⟨(wp_iff.mp requireItAdmin_coded).1, fun user s _ _ => ?_⟩
    have hreads : Reads Failure.Coded view.run ctx s :=
      view.reads_run Failure.coded_notFound fun _ _ => trivial
    exact wp_true_iff.mpr fun e => hreads.fails
  | auth route =>
    simp only [endpoint, AuthRoute.endpoint, service, wp_bind, wp_embed, wp_raiseIf, wp_pure, ApiError.Coded,
      implies_true, true_and, route.success_status]
    exact fun _ => AuthRoute.tokens_coded
  | framework error => exact ⟨error, rfl⟩

def ActorCall.Bindable : ActorCall → Prop
  | asActor op => ∀ actorId, AssetPilot.Bindable (op actorId).texts (op actorId).datetimes []
  | plain op => AssetPilot.Bindable op.texts op.datetimes []

/-- The inputs on which a call of `auth.py` answers. -/
def AuthRoute.Covered (db : Db) (hashed : String → Prop) : AuthRoute → Prop
  | register name email role password => (Op.register name email role password).Covered db
  | login email password => (ServiceCall.authenticate email password).Covered db hashed
  | _ => True

/-- A request that gets past the gate and the schema finds a service that answers. -/
def HttpRequest.Covered (v : Verifier) (hashed : String → Prop) (db : Db) (request : HttpRequest) : Prop :=
  match request.target with
  | .admin route => route.issues = [] → ∀ user op, (requireItAdmin v request.bearer).Runs request.ctx db user db →
      route.call.Calls user op → op.Covered db
  | .auth route => route.issues = [] → route.Covered db hashed
  | .read _ _ | .framework _ => True

/-- The driver can send what the request hands to the database, whoever the actor is. -/
def Target.Bindable : Target → Prop
  | admin route => route.call.Bindable
  | read _ view => AssetPilot.Bindable view.texts view.datetimes view.numbers
  | auth (.register name email _ _) => AssetPilot.Bindable [name, email] [] []
  | auth (.login email _) => AssetPilot.Bindable [email] [] []
  | auth (.refresh _) | auth .me | framework _ => True

/-- What is outside of the API works as it is documented: `bcrypt`, `uuid4` and the driver. -/
structure HttpRequest.Sound (request : HttpRequest) (db : Db) : Prop where
  bcrypt : request.ctx.Bcrypt
  fresh : request.ctx.Fresh db
  bindable : request.target.Bindable

@[simp] theorem ApiError.isHandledInside_failure {f : Failure} :
    (ApiError.failure f).isHandledInside = true ↔ f.IsApp := by
  cases f <;> simp [isHandledInside, Failure.IsApp]

theorem HttpRequest.internalError_iff {request : HttpRequest} :
    (request.respond v db).1.statusCode = 500 ↔
      ¬ wp (fun e => e.isHandledInside = true) (fun _ _ => True) (request.target.endpoint v request.bearer)
        request.ctx db := by
  have hcoded : wp ApiError.Coded (fun answer _ => answer.1.1 = 200 ∨ answer.1.1 = 201)
      (request.target.endpoint v request.bearer) request.ctx db := Target.endpoint_coded
  rw [HttpRequest.respond]
  unfold wp at hcoded ⊢
  cases hanswer : request.target.endpoint v request.bearer request.ctx db with
  | ok answer =>
    rw [hanswer] at hcoded
    refine iff_of_false (fun h500 => ?_) (not_not.mpr trivial)
    have h500 : answer.1.1.1 = 500 := h500
    rcases hcoded with h | h <;> omega
  | error e =>
    rw [hanswer] at hcoded
    exact hcoded.internalError_iff

variable {hashed : String → Prop} {encode : JwtPayload → String} {timely : Int → Datetime → Prop} {issuer : String}
  {start s : ApiState}

theorem getCurrentUser_answers {Q : TokenPayload → Db → Prop} (hQ : ∀ user, Q user db) :
    wp Failure.IsApp Q (getCurrentUser v bearer) ctx db := by
  simp only [getCurrentUser, wp_bind, wp_orRaise, wp_pure, Failure.isApp_unauthorized, implies_true, true_and]
  exact fun token _ => AuthService.decodeToken_answers fun claims subject _ => hQ _

theorem AuthRoute.handled_iff {route : AuthRoute} (hbcrypt : ctx.Bcrypt) (hcheck : v.Bcrypt hashed)
    (hfresh : ctx.Fresh db) :
    Answers (route.tokens v bearer) ctx db ↔ route.Covered db hashed := by
  cases route with
  | register name email role password =>
    rw [Answers, tokens, AuthCall.run, wp_bind]
    exact UserService.wp_insertUser hbcrypt hfresh.user fun _ _ => trivial
  | login email password =>
    have hauth : Answers (AuthService.authenticate v email password) ctx db ↔ _ :=
      AuthService.authenticate_answers hcheck
    rw [Answers, AuthService.authenticate, wp_bind] at hauth
    rw [Answers, tokens, AuthCall.run, wp_bind]
    exact hauth
  | refresh refreshToken =>
    have hrefresh : Answers (AuthService.refresh v refreshToken) ctx db := AuthService.refresh_answers
    rw [Answers, AuthService.refresh, wp_bind] at hrefresh
    rw [Answers, tokens, AuthCall.run, wp_bind]
    exact iff_of_true hrefresh trivial
  | me =>
    rw [Answers, tokens, wp_bind]
    refine iff_of_true (getCurrentUser_answers fun user => ?_) trivial
    rw [wp_bind]
    exact AuthService.getMe_answers

theorem ActorCall.wp_op {E : Failure → Prop} {Q : Op → Db → Prop} {call : ActorCall} {user : TokenPayload} {u : UUID}
    (hparse : UUID.parse user.subject = some u) :
    wp E Q (call.op user) ctx db ↔ ∀ op, call.Calls user op → Q op db := by
  cases call with
  | asActor f =>
    simp only [ActorCall.op, wp_bind, wp_orRaise, wp_pure, hparse, Option.some.injEq, forall_eq', reduceCtorEq,
      false_implies, true_and]
    constructor
    · rintro hQ _ ⟨h⟩
      obtain rfl := Option.some.inj (hparse.symm.trans h)
      exact hQ
    · exact fun hall => hall _ (.asActor hparse)
  | plain op =>
    constructor
    · rintro hQ _ ⟨⟩
      exact hQ
    · exact fun hall => hall op .plain

theorem requireItAdmin_answers : Answers (requireItAdmin v bearer) ctx db := by
  simp only [Answers, requireItAdmin, wp_bind, wp_raiseIf, wp_pure]
  exact getCurrentUser_answers fun user => ⟨fun _ => ⟨_, rfl⟩, fun _ => trivial⟩

theorem View.handled {collation : Like.Collation} {view : View collation} (h : db.HandoversIntegral) :
    wp (fun e => e.isHandledInside = true) (fun _ _ => True) (view.endpoint v bearer) ctx db := by
  simp only [endpoint, service, wp_bind, wp_embed, wp_raiseIf, wp_pure, ApiError.isHandledInside_failure]
  refine wp_iff.mpr ⟨(wp_iff.mp requireItAdmin_answers).1, fun user db' hruns => ⟨fun _ => rfl, fun _ => ?_⟩⟩
  obtain ⟨-, -, -, -, -, -, -, rfl⟩ := runs_getCurrentUser.mp (runs_requireItAdmin.mp hruns).1
  exact View.answers h

/-- In a run the user of a token has an id, so the service is called. -/
theorem Route.handled_iff {route : Route} (hv : v.Decodes encode timely) (hissued : s.Issued encode issuer)
    (hctx : ctx.Deployed encode issuer) (hbearer : ∀ token ∈ bearer, s.Unforged encode issuer token)
    (h : s.db.Coherent) (hbcrypt : ctx.Bcrypt) (hfresh : ctx.Fresh s.db) :
    wp (fun e => e.isHandledInside = true) (fun _ _ => True) (route.endpoint v bearer) ctx s.db ↔
      (route.issues = [] → ∀ user op, (requireItAdmin v bearer).Runs ctx s.db user s.db →
        route.call.Calls user op → op.Covered s.db) := by
  have hcall : ∀ user, (requireItAdmin v bearer).Runs ctx s.db user s.db → route.issues = [] →
      (wp Failure.IsApp (fun op db => Answers op.run ctx db) (route.call.op user) ctx s.db ↔
        ∀ op, route.call.Calls user op → op.Covered s.db) := by
    intro user hruns hissues
    obtain ⟨m, -, -, -, -, hsubject, -⟩ := hissued.of_current hv hctx hbearer (runs_requireItAdmin.mp hruns).1
    refine (ActorCall.wp_op (hsubject ▸ UUID.parse_str m.user.id)).trans (forall₂_congr fun op hcalls => ?_)
    exact Op.answers_iff h hbcrypt hfresh (Route.admitted hissues hcalls)
      (hissued.caller_stored hv hctx hbearer hruns hcalls)
  simp only [endpoint, service, wp_bind, wp_embed, wp_raiseIf, wp_pure, ApiError.isHandledInside_failure, not_not]
  refine wp_iff.trans ⟨fun hall hissues user op hruns => ?_, fun hcovered => ⟨(wp_iff.mp requireItAdmin_answers).1, ?_⟩⟩
  · exact (hcall user hruns hissues).mp ((hall.2 user s.db hruns).2 hissues) op
  · intro user db' hruns
    obtain ⟨-, -, -, -, -, -, -, rfl⟩ := runs_getCurrentUser.mp (runs_requireItAdmin.mp hruns).1
    exact ⟨fun _ => rfl, fun hissues => (hcall user hruns hissues).mpr fun op => hcovered hissues user op hruns⟩

theorem ApiStep.coherent (h : s.db.Coherent) {e : ApiEvent} {s' : ApiState} (hstep : ApiStep v s e s') :
    s'.db.Coherent := by
  rcases hstep.effect.commits with hdb | ⟨e', hcommits⟩
  · exact hdb ▸ h
  · exact h.step hcommits

/-- **What is answered with an internal error**: in every state that requests without forged tokens reach, exactly
what gets past the gate and the schema to a service that does not answer. -/
theorem internalError_iff_of_run (hv : v.Decodes encode timely) (hcheck : v.Bcrypt hashed) (hminted : start.minted = [])
    (h : start.db.Coherent) (hhandovers : start.db.HandoversIntegral)
    (run : Run (ApiStep v) (fun s e => e.Honest encode issuer s) start s) :
    ∀ request : HttpRequest, (ApiEvent.http request).Honest encode issuer s → request.Sound s.db →
      ((request.respond v s.db).1.statusCode = 500 ↔ ¬ request.Covered v hashed s.db) := by
  have hcoherent : s.db.Coherent :=
    run.inv (P := fun s => s.db.Coherent) (fun _ _ _ h _ hstep => ApiStep.coherent h hstep) h
  have hintegral : s.db.HandoversIntegral := run.inv (P := fun s => s.db.HandoversIntegral)
    (fun _ _ _ h _ hstep => h.kept hstep.effect.historyKept) hhandovers
  rintro request hok ⟨hbcrypt, hfresh, -⟩
  refine HttpRequest.internalError_iff.trans (not_congr ?_)
  unfold HttpRequest.Covered
  cases request.target with
  | admin route =>
    simp only [Target.endpoint, wp_bind, wp_pure]
    exact Route.handled_iff hv (issued_of_run hminted run) hok.1 hok.2 hcoherent hbcrypt hfresh
  | auth route =>
    simp only [Target.endpoint, AuthRoute.endpoint, service, wp_bind, wp_embed, wp_raiseIf, wp_pure,
      ApiError.isHandledInside_failure, not_not]
    exact (and_iff_right fun _ => rfl).trans
      (imp_congr_right fun _ => AuthRoute.handled_iff hbcrypt hcheck hfresh)
  | read collation view =>
    simp only [Target.endpoint, wp_bind, wp_pure]
    exact iff_of_true (View.handled hintegral) trivial
  | framework error => exact iff_of_true rfl trivial

/-- The small store, and nobody has a token. -/
def Sample.idle : ApiState := { db := store, minted := [], requestId := none }

/-- Ann registers under a `bcrypt` that hashes. -/
def Sample.enrolment (password : String) : HttpRequest :=
  { httpRequest none (.auth (.register "Ann" "ann@example.com" .manager password)) with ctx := salting }

/-- A password of 73 bytes passes the schema and is answered with a 500, and a short one is not. -/
theorem internalError_iff_of_run_password :
    ((Sample.enrolment Sample.longPassword).respond Sample.checker Sample.idle.db).1.statusCode = 500 ∧
      ((Sample.enrolment "password").respond Sample.checker Sample.idle.db).1.statusCode ≠ 500 := by
  have hcoherent : Sample.idle.db.Coherent := by decide
  have hfresh : Sample.salting.Fresh Sample.idle.db := ⟨by decide, by decide, by decide⟩
  have hbindable : Bindable ["Ann", "ann@example.com"] [] [] := by decide
  have hiff := fun password => internalError_iff_of_run Sample.checker_decodes Sample.checker_bcrypt rfl hcoherent
    (by decide) .refl (Sample.enrolment password) ⟨⟨rfl, rfl⟩, nofun⟩ ⟨Sample.salting_bcrypt, hfresh, hbindable⟩
  refine ⟨(hiff _).mpr fun hcovered => ?_, fun h500 => (hiff _).mp h500 fun _ _ => ?_⟩
  · exact absurd (hcovered (by decide) (by decide)).1 (by decide)
  · exact ⟨by decide, ⟨by decide, by decide⟩, by decide⟩

end AssetPilot
