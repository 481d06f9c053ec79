import AssetPilot.Api.Responses
import AssetPilot.Auth.System
import AssetPilot.Operations
import AssetPilot.Views

/-!
# The endpoints

The endpoints of `app/api/v1/routers`: those that write, those that read, and those of `auth.py`. Every admin endpoint
is behind `require_it_admin`, which answers before the payload is looked at; most of those that write pass the subject
of the token on as the actor.
-/

namespace AssetPilot

open Txn

/-! ### The admin endpoints -/

/-- A call of an admin endpoint, with the parameters of its path and its payload. -/
inductive Route
  | createItem (name serialNo : String) (categoryId : UUID) (ownerType : OwnerType)
      (clientName : Option String) (purchaseDate : Option Date)
  | editItem (itemId : UUID) (updates : InventoryService.ItemUpdates)
  | changeItemStatus (itemId : UUID) (status : DeviceStatus) (itNote : Option String)
  | directAssignItem (itemId employeeId : UUID) (assignedFrom assignedTo : Datetime)
  | rejectRequest (requestId : UUID) (rejectedReason : String) (itDecisionNote : Option String)
  | cancelRequest (requestId : UUID) (rejectedReason : String)
  | escalateToManager (requestId : UUID) (managerId : Option UUID)
  | updateBookingRange (requestId : UUID) (assignedFrom assignedTo : Datetime)
  | assignDevice (requestId itemId : UUID) (assignedFrom assignedTo : Datetime) (isWfh : Bool)
  | shipRequest (requestId : UUID) (shipTrackingUrl : String)
  | confirmDelivery (requestId : UUID)
  | completeReturn (requestId : UUID) (nextStatus : DeviceStatus)
  | startSupportRequest (supportRequestId : UUID)
  | resolveSupportRequest (supportRequestId : UUID) (resolution : SupportResolution) (itNote : Option String)
      (swappedToItemId : Option UUID) (oldItemNextStatus : Option DeviceStatus)
  | approveExtensionRequest (extensionRequestId : UUID) (itNote : Option String)
  | rejectExtensionRequest (extensionRequestId : UUID) (itNote : Option String)
  | createUser (name email : String) (role : UserRole)
  | changeRole (userId : UUID) (role : UserRole)
  | deactivateUser (userId : UUID)
  | activateUser (userId : UUID)

/-- The service call of an endpoint: most name the actor. -/
inductive ActorCall
  | asActor (op : UUID → Op)
  | plain (op : Op)

def Route.call : Route → ActorCall
  | createItem name serialNo categoryId ownerType clientName purchaseDate =>
    .asActor (.createItem name serialNo categoryId ownerType clientName purchaseDate)
  | editItem itemId updates => .asActor (.editItem itemId updates)
  | changeItemStatus itemId status itNote => .asActor (.changeStatus itemId status itNote)
  | directAssignItem itemId employeeId assignedFrom assignedTo =>
    .asActor (.directAssign itemId employeeId assignedFrom assignedTo)
  | rejectRequest requestId rejectedReason itDecisionNote =>
    .asActor (.reject requestId rejectedReason itDecisionNote)
  | cancelRequest requestId rejectedReason => .asActor (.cancel requestId rejectedReason)
  | escalateToManager requestId managerId => .plain (.escalateToManager requestId managerId)
  | updateBookingRange requestId assignedFrom assignedTo =>
    .plain (.updateBookingRange requestId assignedFrom assignedTo)
  | assignDevice requestId itemId assignedFrom assignedTo isWfh =>
    .asActor (.assign requestId itemId assignedFrom assignedTo isWfh)
  | shipRequest requestId shipTrackingUrl => .asActor (.ship requestId shipTrackingUrl)
  | confirmDelivery requestId => .asActor (.confirmDelivery requestId)
  | completeReturn requestId nextStatus => .asActor (.completeReturn requestId nextStatus)
  | startSupportRequest supportRequestId => .asActor (.start supportRequestId)
  | resolveSupportRequest supportRequestId resolution itNote swappedToItemId oldItemNextStatus =>
    .asActor (.resolve supportRequestId resolution itNote swappedToItemId oldItemNextStatus)
  | approveExtensionRequest extensionRequestId itNote => .asActor (.approveExtension extensionRequestId itNote)
  | rejectExtensionRequest extensionRequestId itNote => .asActor (.rejectExtension extensionRequestId itNote)
  | createUser name email role => .plain (.createUser name email role)
  | changeRole userId role => .plain (.changeRole userId role)
  | deactivateUser userId => .plain (.deactivate userId)
  | activateUser userId => .plain (.activate userId)

/-- What a validator of the payload finds. -/
def issueUnless (valid : Prop) [Decidable valid] (loc : List String) (msg : String) : List ValidationIssue :=
  if valid then [] else [{ loc := loc, msg := msg }]

/-- A `model_validator` is about the whole body, and its `ValueError` is told as such. -/
def rangeIssue (assignedFrom assignedTo : Datetime) : List ValidationIssue :=
  issueUnless (RangeRequest assignedFrom assignedTo) ["body"]
    "Value error, assigned_from must be before assigned_to."

/-- What the schema in front of the endpoint finds. -/
def Route.issues : Route → List ValidationIssue
  | createItem _ _ _ ownerType clientName _ =>
    issueUnless (CreateItemRequest ownerType clientName) ["body"]
      "Value error, client_name is required when owner_type is 'client'."
  | changeItemStatus _ status _ =>
    issueUnless (ChangeItemStatusRequest status) ["body"]
      (s!"Value error, status '{status.value}' cannot be set directly; " ++
        "it is only set by the assignment/shipping lifecycle.")
  | directAssignItem _ _ assignedFrom assignedTo => rangeIssue assignedFrom assignedTo
  | updateBookingRange _ assignedFrom assignedTo => rangeIssue assignedFrom assignedTo
  | assignDevice _ _ assignedFrom assignedTo _ => rangeIssue assignedFrom assignedTo
  | completeReturn _ nextStatus =>
    issueUnless (CompleteReturnRequest nextStatus) ["body", "next_status"]
      "Value error, next_status must be one of: available, under_repair, retired."
  | resolveSupportRequest _ resolution _ swappedToItemId oldItemNextStatus =>
    issueUnless (ResolveSupportRequestRequest resolution swappedToItemId oldItemNextStatus) ["body"]
      "Value error, swapped_to_item_id and old_item_next_status are required when resolution is 'swapped'."
  | _ => []

/-- The status and the message of a success. -/
def Route.success : Route → Nat × String
  | createItem .. => (201, "Device created.")
  | editItem .. => (200, "Device updated.")
  | changeItemStatus .. => (200, "Device status updated.")
  | directAssignItem .. => (201, "Device directly assigned.")
  | rejectRequest .. => (200, "Request rejected.")
  | cancelRequest .. => (200, "Request cancelled.")
  | escalateToManager .. => (200, "Request escalated to manager.")
  | updateBookingRange .. => (200, "Booking range updated.")
  | assignDevice .. => (200, "Device assigned.")
  | shipRequest .. => (200, "Device marked shipped.")
  | confirmDelivery .. => (200, "Delivery confirmed.")
  | completeReturn .. => (200, "Return completed.")
  | startSupportRequest .. => (200, "Support request marked in progress.")
  | resolveSupportRequest .. => (200, "Support request resolved.")
  | approveExtensionRequest .. => (200, "Extension request approved.")
  | rejectExtensionRequest .. => (200, "Extension request rejected.")
  | createUser .. => (201, "User created.")
  | changeRole .. => (200, "User role updated.")
  | deactivateUser .. => (200, "User deactivated.")
  | activateUser .. => (200, "User activated.")

abbrev Endpoint := Txn Ctx Db ApiError

/-- A service call inside an endpoint. -/
def service {α : Type} (x : Service α) : Endpoint α := embed .failure x

/-- `uuid.UUID(current_user.subject)`, where the endpoint names the actor. -/
def ActorCall.op (currentUser : TokenPayload) : ActorCall → Service Op
  | asActor op => do
    let actorId ← orRaise (UUID.parse currentUser.subject) .valueError
    return op actorId
  | plain op => return op

/-- The gate of the router, the payload, the service. -/
def Route.endpoint (v : Verifier) (bearer : Option String) (route : Route) : Endpoint (Nat × String) := do
  let currentUser ← service (requireItAdmin v bearer)
  raiseIf (route.issues ≠ []) (.requestValidationError route.issues)
  let op ← service (route.call.op currentUser)
  service op.run
  return route.success

/-! ### The endpoints that read -/

/-- `Query(ge=1)` of the two panels; the bounds of `PaginationParams` are in its type. -/
def View.issues {collation : Like.Collation} : View collation → List ValidationIssue
  | recentRequests limit _ | openSupport limit _ =>
    issueUnless (1 ≤ limit) ["query", "limit"] "Input should be greater than or equal to 1"
  | _ => []

/-- The message of the success, which is a 200. -/
def View.message {collation : Like.Collation} : View collation → String
  | summary => "Dashboard summary."
  | recentRequests .. => "Recent requests."
  | openSupport .. => "Open support requests."
  | itemCategories .. => "Item categories."
  | managers .. => "Managers."
  | employees .. => "Employees."
  | extensionRequests .. => "Extension requests."
  | extensionDetail .. => "Extension request detail."
  | handovers .. => "Handover requests."
  | items .. => "Device inventory."
  | clientAvailable .. => "Available client-owned devices."
  | itemDetail .. => "Device detail."
  | timeline .. => "Device timeline."
  | itemBookings .. => "Device booking calendar."
  | requests .. => "Requests."
  | requestDetail .. => "Request detail."
  | itApprovals .. => "IT approval queue."
  | suggestedDevices .. => "Suggested devices."
  | outbound .. => "Outbound shipping queue."
  | returns .. => "WFH return queue."
  | supportRequests .. => "Support requests."
  | supportDetail .. => "Support request detail."
  | users .. => "Users."

/-- The gate of the router, the query, the service. -/
def View.endpoint {collation : Like.Collation} (v : Verifier) (bearer : Option String) (view : View collation) :
    Endpoint (Nat × String) := do
  let _ ← service (requireItAdmin v bearer)
  raiseIf (view.issues ≠ []) (.requestValidationError view.issues)
  let _ ← service view.run
  return (200, view.message)

/-! ### The endpoints of `auth.py` -/

inductive AuthRoute
  | register (name email : String) (role : UserRole) (password : String)
  | login (email password : String)
  | refresh (refreshToken : String)
  | me

def AuthRoute.issues : AuthRoute → List ValidationIssue
  | register _ _ _ password =>
    issueUnless (RegisterRequest password) ["body", "password"] "String should have at least 8 characters"
  | _ => []

def AuthRoute.success : AuthRoute → Nat × String
  | register .. => (201, "Registration successful.")
  | login .. => (200, "Login successful.")
  | refresh .. => (200, "Token refreshed.")
  | me => (200, "Current user profile.")

/-- What the service makes, with the record of the tokens that it hands out. -/
def AuthRoute.tokens (v : Verifier) (bearer : Option String) : AuthRoute → Service (List Minted)
  | register name email role password => (AuthCall.register name email role password).run v
  | login email password => (AuthCall.authenticate email password).run v
  | refresh refreshToken => (AuthCall.refresh refreshToken).run v
  | me => do
    let currentUser ← getCurrentUser v bearer
    let _ ← AuthService.getMe currentUser.subject
    return []

def AuthRoute.endpoint (v : Verifier) (bearer : Option String) (route : AuthRoute) :
    Endpoint ((Nat × String) × List Minted) := do
  raiseIf (route.issues ≠ []) (.requestValidationError route.issues)
  let minted ← service (route.tokens v bearer)
  return (route.success, minted)

/-! ### What a route lets through -/

variable {v : Verifier} {ctx : Ctx} {db db' : Db} {bearer : Option String} {route : Route} {minted : List Minted}

@[simp] theorem issueUnless_eq_nil {valid : Prop} [Decidable valid] {loc : List String} {msg : String} :
    issueUnless valid loc msg = [] ↔ valid := by
  unfold issueUnless
  split <;> simp [*]

/-- The call that an endpoint makes for a user. -/
inductive ActorCall.Calls (currentUser : TokenPayload) : ActorCall → Op → Prop
  | asActor {op : UUID → Op} {actorId : UUID} (h : UUID.parse currentUser.subject = some actorId) :
    Calls currentUser (.asActor op) (op actorId)
  | plain {op : Op} : Calls currentUser (.plain op) op

theorem ActorCall.runs_op {currentUser : TokenPayload} {call : ActorCall} {op : Op} :
    (call.op currentUser).Runs ctx db op db' ↔ call.Calls currentUser op ∧ db' = db := by
  cases call with
  | asActor f =>
    simp only [ActorCall.op, runs_bind, runs_orRaise, runs_pure]
    constructor
    · rintro ⟨actorId, _, ⟨h, rfl⟩, rfl, rfl⟩
      exact ⟨.asActor h, rfl⟩
    · rintro ⟨⟨h⟩, rfl⟩
      exact ⟨_, _, ⟨h, rfl⟩, rfl, rfl⟩
  | plain op' =>
    simp only [ActorCall.op, runs_pure]
    constructor
    · rintro ⟨rfl, rfl⟩
      exact ⟨.plain, rfl⟩
    · rintro ⟨⟨⟩, rfl⟩
      exact ⟨rfl, rfl⟩

theorem Route.admitted {currentUser : TokenPayload} {op : Op} (hissues : route.issues = [])
    (h : route.call.Calls currentUser op) : op.Admitted := by
  cases route <;> cases h <;> first | trivial | exact issueUnless_eq_nil.mp hissues

theorem Route.runs_endpoint {answer : Nat × String} : (route.endpoint v bearer).Runs ctx db answer db' ↔
    ∃ user op, (requireItAdmin v bearer).Runs ctx db user db ∧ route.issues = [] ∧
      route.call.Calls user op ∧ op.run.Runs ctx db () db' ∧ answer = route.success := by
  simp only [endpoint, service, runs_bind, runs_embed, runs_raiseIf, ActorCall.runs_op, runs_pure, not_not]
  constructor
  · rintro ⟨user, _, hgate, ⟨⟩, _, ⟨hissues, rfl⟩, op, _, ⟨hcalls, rfl⟩, ⟨⟩, _, hop, rfl, rfl⟩
    obtain ⟨-, -, -, -, -, -, -, rfl⟩ := runs_getCurrentUser.mp (runs_requireItAdmin.mp hgate).1
    exact ⟨user, op, hgate, hissues, hcalls, hop, rfl⟩
  · rintro ⟨user, op, hgate, hissues, hcalls, hop, rfl⟩
    exact ⟨user, db, hgate, (), db, ⟨hissues, rfl⟩, op, db, ⟨hcalls, rfl⟩, (), db', hop, rfl, rfl⟩

theorem View.runs_endpoint {collation : Like.Collation} {view : View collation} {answer : Nat × String}
    (h : (view.endpoint v bearer).Runs ctx db answer db') : db' = db := by
  simp only [endpoint, service, runs_bind, runs_embed, runs_raiseIf, runs_pure] at h
  obtain ⟨user, _, hgate, ⟨⟩, _, ⟨-, rfl⟩, result, _, hview, -, rfl⟩ := h
  obtain ⟨-, -, -, -, -, -, -, rfl⟩ := runs_getCurrentUser.mp (runs_requireItAdmin.mp hgate).1
  exact view.runs_db hview

theorem AuthRoute.runs_endpoint {route : AuthRoute} {answer : (Nat × String) × List Minted} :
    (route.endpoint v bearer).Runs ctx db answer db' ↔
      route.issues = [] ∧ answer.1 = route.success ∧ (route.tokens v bearer).Runs ctx db answer.2 db' := by
  simp only [endpoint, service, runs_bind, runs_embed, runs_raiseIf, runs_pure, not_not]
  constructor
  · rintro ⟨-, _, ⟨hissues, rfl⟩, minted, _, htokens, rfl, rfl⟩
    exact ⟨hissues, rfl, htokens⟩
  · rintro ⟨hissues, hsuccess, htokens⟩
    exact ⟨(), db, ⟨hissues, rfl⟩, answer.2, db', htokens, Prod.ext hsuccess rfl, rfl⟩

theorem Route.success_status (route : Route) : route.success.1 = 200 ∨ route.success.1 = 201 := by
  cases route <;> first | exact .inl rfl | exact .inr rfl

theorem AuthRoute.success_status (route : AuthRoute) : route.success.1 = 200 ∨ route.success.1 = 201 := by
  cases route <;> first | exact .inl rfl | exact .inr rfl

end AssetPilot
