import AssetPilot.Invariants.Answers
import AssetPilot.Listings.ItemDetail
import AssetPilot.Services.AuthService
import AssetPilot.Views

/-!
# What escapes a service

All operations of the services, with the inputs on which a call ends with something else than a result or an
`AppException`: a value that the request schema lets through and that the service hands to the database or to
`bcrypt` without a check of its own, or a device that it takes for granted. The values are such as the driver
can send at all.
-/

namespace AssetPilot

open Relational Custody System Txn Like

/-- What `bcrypt.checkpw` documents: it refuses a password of more than 72 bytes, and a text that is no
hash. -/
structure Verifier.Bcrypt (v : Verifier) (hashed : String → Prop) : Prop where
  refuses : ∀ p hash, v.checkpw p hash = none ↔ 72 < p.utf8ByteSize ∨ ¬ hashed hash

/-- What `uuid.uuid4` documents: the keys that it makes are new. -/
structure Ctx.Fresh (ctx : Ctx) (db : Db) : Prop where
  item : db.items.get? (ctx.uuid4 0) = none
  user : db.users.get? (ctx.uuid4 0) = none
  qrCode : ∀ i ∈ db.items.rows, i.qrCodeToken ≠ ctx.uuid4 1

/-! ### The writing operations -/

/-- The point in time has a year from 1 to 9999 in UTC. -/
def IsUtc (t : Datetime) : Prop := -62135596800000000 ≤ t ∧ t < 253402300800000000

instance (t : Datetime) : Decidable (IsUtc t) := inferInstanceAs (Decidable (_ ∧ _))

/-- The driver can send the values: a text has no `NUL`, a time is one of UTC, and a number has 64 bits. -/
def Bindable (texts : List String) (datetimes : List Datetime) (numbers : List Nat) : Prop :=
  (∀ s ∈ texts, Varchar.NulFree s) ∧ (∀ t ∈ datetimes, IsUtc t) ∧ ∀ n ∈ numbers, n < 2 ^ 63

instance (texts : List String) (datetimes : List Datetime) (numbers : List Nat) :
    Decidable (Bindable texts datetimes numbers) := inferInstanceAs (Decidable (_ ∧ _ ∧ _))

/-- The row is no second one in `uq_one_active_request_per_item`. -/
def Db.Claimable (db : Db) (r : Request) : Prop := Table.Apart Request.Compatible db.requests r

/-- What no service checks about its input, or about the rows that the input names. -/
def Op.Covered (db : Db) : Op → Prop
  | .createItem name serialNo categoryId ownerType clientName _ _ =>
    db.categories.get? categoryId ≠ none → (∀ i ∈ db.items.rows, i.serialNo ≠ serialNo) →
      (Storable name ∧ Storable serialNo ∧ (ownerType = .client → ∀ c ∈ clientName, Storable c)) ∧
        ∀ i ∈ db.items.rows, i.serialNo ≠ varchar serialNo
  | .editItem itemId updates _ =>
    db.items.get? itemId ≠ none → db.categories.References updates.categoryId → updates.Storable
  | .updateBookingRange requestId _ _ =>
    ∀ r, db.requests.get? requestId = some r → r.status = .assigned → r.assignedItemId ≠ none
  | .escalateToManager requestId managerId =>
    ∀ r, db.requests.get? requestId = some r → r.status = .pendingItApproval → r.requiresMgrApproval = false →
      db.users.References managerId ∧ db.Claimable { r with status := .pendingMgrApproval }
  | .resolve ticketId resolution _ newId _ _ =>
    ∀ t, db.supportRequests.get? ticketId = some t → t.status ≠ .resolved →
      ∀ i, db.items.get? t.itemId = some i → resolution = .swapped →
        ∀ n, n ∈ newId.bind db.items.get? → SwapTarget i n →
          ∀ r, r ∈ db.tiedRequest t → db.Claimable { r with assignedItemId := some n.id }
  | .approveExtension extensionId _ _ =>
    ∀ x, db.extensionRequests.get? extensionId = some x → x.status = .pending →
      x.mgrApprovalStatus ∈ ExtensionService._MGR_APPROVAL_STATUSES_ALLOWING_IT_APPROVAL →
        ∀ r, db.requests.get? x.originalRequestId = some r → r.assignedItemId ≠ none
  | .rejectExtension extensionId _ _ =>
    ∀ x, db.extensionRequests.get? extensionId = some x → x.status = .pending →
      ∀ r, db.requests.get? x.originalRequestId = some r → r.assignedItemId ≠ none
  | .createUser name email _ =>
    (∀ u ∈ db.users.rows, u.email ≠ email) →
      (Storable name ∧ Storable email) ∧ ∀ u ∈ db.users.rows, u.email ≠ varchar email
  | .register name email _ password =>
    (∀ u ∈ db.users.rows, u.email ≠ email) →
      password.utf8ByteSize ≤ 72 ∧ (Storable name ∧ Storable email) ∧ ∀ u ∈ db.users.rows, u.email ≠ varchar email
  | _ => True

/-- The texts that the call writes or looks up. -/
def Op.texts : Op → List String
  | .createItem name serialNo _ ownerType clientName _ _ =>
    name :: serialNo :: if ownerType = .client then clientName.toList else []
  | .editItem _ updates _ => updates.name.toList ++ updates.clientName.join.toList
  | .reject _ rejectedReason itDecisionNote _ => rejectedReason :: itDecisionNote.toList
  | .cancel _ rejectedReason _ => [rejectedReason]
  | .ship _ shipTrackingUrl _ => [shipTrackingUrl]
  | .changeStatus _ _ itNote _ | .resolve _ _ itNote _ _ _ | .approveExtension _ itNote _
  | .rejectExtension _ itNote _ => itNote.toList
  | .createUser name email _ | .register name email _ _ => [name, email]
  | _ => []

def Op.datetimes : Op → List Datetime
  | .updateBookingRange _ assignedFrom assignedTo | .assign _ _ assignedFrom assignedTo _ _
  | .directAssign _ _ assignedFrom assignedTo _ => [assignedFrom, assignedTo]
  | _ => []

variable {v : Verifier} {hashed : String → Prop} {ctx : Ctx} {db db' : Db} {op : Op}

theorem answers_discard {α : Type} {x : Service α} : Answers (discard x) ctx db ↔ Answers x ctx db := by
  simp only [Answers, discard, wp_bind, wp_pure]

theorem Op.answers_iff (h : db.Coherent) (hbcrypt : ctx.Bcrypt) (hfresh : ctx.Fresh db)
    (hadmitted : op.Admitted) (hcaller : db.users.References op.caller) :
    Answers op.run ctx db ↔ op.Covered db := by
  cases op <;> refine answers_discard.trans ?_
  case createItem => exact InventoryService.createItem_answers hcaller hfresh.item hfresh.qrCode
  case editItem => exact InventoryService.editItem_answers h hcaller
  case changeStatus => exact iff_of_true (InventoryService.changeStatus_answers h hcaller) trivial
  case updateBookingRange => exact AssignmentService.updateBookingRange_answers h
  case assign => exact iff_of_true (AssignmentService.assign_answers h hcaller) trivial
  case directAssign => exact iff_of_true (AssignmentService.directAssign_answers h hcaller) trivial
  case reject => exact iff_of_true (RequestService.reject_answers h hcaller) trivial
  case cancel => exact iff_of_true (RequestService.cancel_answers h hcaller) trivial
  case escalateToManager => exact RequestService.escalateToManager_answers h
  case ship => exact iff_of_true (ShippingService.ship_answers h hcaller) trivial
  case confirmDelivery => exact iff_of_true (ShippingService.confirmDelivery_answers h hcaller) trivial
  case completeReturn => exact iff_of_true (ShippingService.completeReturn_answers h hcaller) trivial
  case start => exact iff_of_true (SupportService.start_answers h hcaller) trivial
  case resolve => exact SupportService.resolve_answers h hcaller hadmitted
  case approveExtension => exact ExtensionService.approve_answers h hcaller
  case rejectExtension => exact ExtensionService.reject_answers h hcaller
  case createUser => exact UserService.createUser_answers hbcrypt hfresh.user
  case changeRole => exact iff_of_true (UserService.changeRole_answers h) trivial
  case deactivate => exact iff_of_true (UserService.deactivate_answers h) trivial
  case activate => exact iff_of_true (UserService.activate_answers h) trivial
  case register => exact AuthService.register_answers hbcrypt hfresh.user

/-! ### The operations that read -/

namespace AuthService

variable {k : Nat} {user : User} {token email password : String} {userId : Option String}

theorem decodeToken_answers {type : TokenType} {Q : JwtClaims → Db → Prop} (hQ : ∀ claims, Q claims db) :
    wp Failure.IsApp Q (decodeToken v k token (some type)) ctx db := by
  simp only [decodeToken, wp_bind, wp_ask, wp_utcNow, wp_raiseIf, wp_pure, Failure.isApp_unauthorized,
    implies_true, true_and]
  rcases v.jwtDecode (ctx.clock k) ctx.settings.jwtIssuer token with (_ | _) | claims
  · exact Failure.isApp_unauthorized _
  · exact Failure.isApp_unauthorized _
  · exact fun _ => hQ claims

theorem getActiveUser_answers {Q : User → Db → Prop} (hQ : ∀ user, Q user db) :
    wp Failure.IsApp Q (getActiveUser userId) ctx db := by
  simp only [getActiveUser, wp_bind, wp_orRaise, UserRepository.wp_getById, wp_raiseIf, wp_pure,
    Failure.isApp_unauthorized, Failure.isApp_notFound, implies_true, true_and]
  exact fun _ _ _ _ user _ _ => hQ user

theorem refresh_answers : Answers (refresh v token) ctx db := by
  simp only [Answers, refresh, refreshedUser, wp_bind]
  exact decodeToken_answers fun claims => getActiveUser_answers fun user => trivial

theorem getMe_answers {userId : String} : Answers (getMe userId) ctx db := by
  simp only [Answers, getMe, wp_bind, wp_pure]
  exact getActiveUser_answers fun _ => trivial

/-- `bcrypt` takes the password, and what is stored as the hash of the user: everything else is a 401. -/
theorem wp_authenticate {E : Failure → Prop} (hunauthorized : ∀ m, E (unauthorizedException m))
    (hvalue : ¬ E .valueError) (hbcrypt : v.Bcrypt hashed) :
    wp E (fun _ _ => True) (authenticate v email password) ctx db ↔
      ∀ u, db.users.rows.find? (fun u => u.email = email) = some u → ∀ hash, u.passwordHash = some hash →
        password.utf8ByteSize ≤ 72 ∧ hashed hash := by
  have htakes : ∀ hash, v.checkpw password hash ≠ none ↔ password.utf8ByteSize ≤ 72 ∧ hashed hash := by
    intro hash
    rw [Ne, hbcrypt.refuses, not_or, not_lt, not_not]
  have htokens : ∀ user, wp E (fun _ _ => True) (tokensFor 0 user) ctx db := fun _ => trivial
  simp only [authenticate, authenticatedUser, wp_bind, UserRepository.wp_getByEmail, wp_orRaise, verifyPassword,
    wp_raiseIf, wp_pure, hunauthorized, hvalue, implies_true, true_and, htokens, and_true, imp_false, htakes]

theorem authenticate_answers (hbcrypt : v.Bcrypt hashed) : Answers (authenticate v email password) ctx db ↔
    ∀ u, db.users.rows.find? (fun u => u.email = email) = some u → ∀ hash, u.passwordHash = some hash →
      password.utf8ByteSize ≤ 72 ∧ hashed hash :=
  wp_authenticate Failure.isApp_unauthorized isApp_valueError hbcrypt

end AuthService

theorem View.answers {collation : Collation} {view : View collation} (h : db.HandoversIntegral) :
    Answers view.run ctx db := by
  have hreads : Reads Failure.IsApp view.run ctx db := view.reads_run Failure.isApp_notFound fun itemId hmany =>
    absurd (h.length_accepted itemId) (Nat.not_le.mpr hmany)
  exact wp_true_iff.mpr fun e => hreads.fails

/-! ### Every call -/

/-- A call of the system: an operation that writes, or one that reads. -/
inductive ServiceCall
  | write (op : Op)
  | read (collation : Collation) (view : View collation)
  | authenticate (email password : String)
  | refresh (refreshToken : String)
  | getMe (userId : String)

namespace ServiceCall

def run (v : Verifier) : ServiceCall → Service Unit
  | write op => op.run
  | read _ view => discard view.run
  | authenticate email password => discard (AuthService.authenticate v email password)
  | refresh refreshToken => discard (AuthService.refresh v refreshToken)
  | getMe userId => discard (AuthService.getMe userId)

/-- The payload passes its schema, the caller is a user, and the driver can send what the call hands to the
database. -/
def Admitted (db : Db) : ServiceCall → Prop
  | write op => op.Admitted ∧ db.users.References op.caller ∧ Bindable op.texts op.datetimes []
  | read _ view => Bindable view.texts view.datetimes view.numbers
  | authenticate email _ => Bindable [email] [] []
  | _ => True

/-- The inputs on which the call answers. -/
def Covered (db : Db) (hashed : String → Prop) : ServiceCall → Prop
  | write op => op.Covered db
  | authenticate email password =>
    ∀ u, db.users.rows.find? (fun u => u.email = email) = some u → ∀ hash, u.passwordHash = some hash →
      password.utf8ByteSize ≤ 72 ∧ hashed hash
  | _ => True

variable {call : ServiceCall}

theorem answers_iff (h : db.Coherent) (hhandovers : db.HandoversIntegral) (hcrypt : ctx.Bcrypt)
    (hverify : v.Bcrypt hashed) (hfresh : ctx.Fresh db) (hadmitted : call.Admitted db) :
    Answers (call.run v) ctx db ↔ call.Covered db hashed := by
  cases call with
  | write op => exact Op.answers_iff h hcrypt hfresh hadmitted.1 hadmitted.2.1
  | read _ view => exact answers_discard.trans (iff_of_true (View.answers hhandovers) trivial)
  | authenticate email password => exact answers_discard.trans (AuthService.authenticate_answers hverify)
  | refresh token => exact answers_discard.trans (iff_of_true AuthService.refresh_answers trivial)
  | getMe userId => exact answers_discard.trans (iff_of_true AuthService.getMe_answers trivial)

end ServiceCall

/-- **What escapes a service**: in every reachable state a call fails with an `AppException` or not at all
exactly when its input is covered. -/
theorem answered_of_run {ok : Db → Event → Prop} {call : ServiceCall} (h : db.Coherent)
    (hhandovers : db.HandoversIntegral) (run : Run Step ok db db') (hcrypt : ctx.Bcrypt) (hverify : v.Bcrypt hashed)
    (hfresh : ctx.Fresh db') (hadmitted : call.Admitted db') :
    (∀ e, (call.run v).Fails ctx db' e → e.IsApp) ↔ call.Covered db' hashed := by
  have hkept : HistoryKept db db' := HistoryKept.of_run run
  exact wp_true_iff.symm.trans
    (ServiceCall.answers_iff (h.of_run run) (hhandovers.kept hkept) hcrypt hverify hfresh hadmitted)

/-! ### Two leaks -/

namespace Sample

/-- A text of the form that `bcrypt.hashpw` gives. -/
def hash : String := "$2b$12$sampleSaltSampleSalt22sampleHashSampleHashSampleHash1"

/-- The calls of the small store, with a `bcrypt` that knows one hash. -/
def hashing : Ctx :=
  { Sample.ctx with
    hashpw := fun password => if 72 < password.utf8ByteSize then none else some hash }

def checking : Verifier where
  checkpw password hashed := if 72 < password.utf8ByteSize ∨ hashed ≠ hash then none else some true
  jwtDecode _ _ _ := .error .invalidTokenError

theorem hashing_bcrypt : hashing.Bcrypt := by
  refine ⟨fun p => ?_, fun p c hc => ?_⟩
  · simp [hashing]
  · simp only [hashing, Option.mem_def] at hc
    split at hc
    · cases hc
    · obtain rfl := Option.some.inj hc
      decide

theorem checking_bcrypt : checking.Bcrypt (· = hash) := by
  refine ⟨fun p c => ?_⟩
  simp [checking, or_iff_not_imp_left]

/-- Laptop 1 goes to request 1, and is set to available while the request has it. -/
def freed : Db :=
  after [call (.assign 1 1 0 10 false 9), call (.changeStatus 1 .available none 9)]

theorem freed_run :
    Run Step (fun _ e => ∀ ctx op, e = .service ctx op → op.Admitted) store freed :=
  .step (.step .refl (call (.assign 1 1 0 10 false 9)) (fun _ _ he => by cases he; decide) rfl)
    (call (.changeStatus 1 .available none 9)) (fun _ _ he => by cases he; decide) rfl

end Sample

/-- An escalation to a manager who is a user answers, and one to a manager who is none does not. -/
theorem answered_of_run_escalation :
    (∀ e, ((ServiceCall.write (.escalateToManager 1 (some 9))).run Sample.checking).Fails Sample.hashing
        Sample.store e → e.IsApp) ∧
      ¬ ∀ e, ((ServiceCall.write (.escalateToManager 1 (some 77))).run Sample.checking).Fails Sample.hashing
        Sample.store e → e.IsApp := by
  have hcoherent : Sample.store.Coherent := by decide
  have hfresh : Sample.hashing.Fresh Sample.store := ⟨by decide, by decide, by decide⟩
  have hstart : Run Step (fun _ _ => True) Sample.store Sample.store := .refl
  have hadmitted : ∀ m, (ServiceCall.write (.escalateToManager 1 m)).Admitted Sample.store :=
    fun _ => ⟨trivial, nofun, nofun, nofun, nofun⟩
  refine ⟨?_, fun hall => ?_⟩
  · refine (answered_of_run hcoherent (by decide) hstart Sample.hashing_bcrypt Sample.checking_bcrypt hfresh
      (hadmitted _)).mpr fun r hr _ _ => ?_
    cases hr
    exact ⟨Table.references_of_get? rfl, fun x _ _ hclash => hclash.2.1 rfl⟩
  · have hcovered := (answered_of_run hcoherent (by decide) hstart Sample.hashing_bcrypt Sample.checking_bcrypt hfresh
      (hadmitted _)).mp hall
    exact absurd ((hcovered _ rfl rfl rfl).1 77 rfl) (by decide)

/-- An unknown manager breaks a foreign key, and a swap to a device that is available but booked breaks the
unique index. -/
theorem integrityError_leaks :
    Sample.store.Coherent ∧
      Run Step (fun _ e => ∀ ctx op, e = .service ctx op → op.Admitted) Sample.store Sample.freed ∧
      (Op.resolve 1 .swapped none (some 1) (some .available) 9).Admitted ∧
      Sample.freed.users.get? 9 ≠ none ∧
      (Op.resolve 1 .swapped none (some 1) (some .available) 9).run.Fails Sample.ctx Sample.freed
        .integrityError ∧
      (Op.escalateToManager 1 (some 77)).Admitted ∧
      (Op.escalateToManager 1 (some 77)).run.Fails Sample.ctx Sample.store .integrityError ∧
      ¬ Failure.integrityError.IsApp :=
  ⟨by decide, Sample.freed_run, by decide, by decide, rfl, trivial, rfl, isApp_integrityError⟩

end AssetPilot
