import AssetPilot.Lib.System
import AssetPilot.Schemas.Payloads
import AssetPilot.Services.ExtensionService
import AssetPilot.Services.InventoryService
import AssetPilot.Services.UserService

/-!
# The system

`Op` is a call of a writing service operation with its arguments, `Op.run` what the service does with
it, and `Op.Admitted` what the request schema in front of it lets through. The mobile side, where
employees and managers file and decide, is not in the repository; `PortalStep` lists the writes it is
assumed to make. An `Event` is one of the two, and takes the database to `Event.exec`: a failed call
rolls back.
-/

namespace AssetPilot

open Txn
open SQLAlchemyRepository (born flushed)

/-! ### Service operations -/

inductive Op
  | createItem (name serialNo : String) (categoryId : UUID) (ownerType : OwnerType)
      (clientName : Option String) (purchaseDate : Option Date) (actorId : UUID)
  | editItem (itemId : UUID) (updates : InventoryService.ItemUpdates) (actorId : UUID)
  | changeStatus (itemId : UUID) (status : DeviceStatus) (itNote : Option String) (actorId : UUID)
  | updateBookingRange (requestId : UUID) (assignedFrom assignedTo : Datetime)
  | assign (requestId itemId : UUID) (assignedFrom assignedTo : Datetime) (isWfh : Bool) (actorId : UUID)
  | directAssign (itemId employeeId : UUID) (assignedFrom assignedTo : Datetime) (actorId : UUID)
  | reject (requestId : UUID) (rejectedReason : String) (itDecisionNote : Option String) (actorId : UUID)
  | cancel (requestId : UUID) (rejectedReason : String) (actorId : UUID)
  | escalateToManager (requestId : UUID) (managerId : Option UUID)
  | ship (requestId : UUID) (shipTrackingUrl : String) (actorId : UUID)
  | confirmDelivery (requestId actorId : UUID)
  | completeReturn (requestId : UUID) (nextStatus : DeviceStatus) (actorId : UUID)
  | start (supportRequestId actorId : UUID)
  | resolve (supportRequestId : UUID) (resolution : SupportResolution) (itNote : Option String)
      (swappedToItemId : Option UUID) (oldItemNextStatus : Option DeviceStatus) (actorId : UUID)
  | approveExtension (extensionRequestId : UUID) (itNote : Option String) (actorId : UUID)
  | rejectExtension (extensionRequestId : UUID) (itNote : Option String) (actorId : UUID)
  | createUser (name email : String) (role : UserRole)
  | changeRole (userId : UUID) (role : UserRole)
  | deactivate (userId : UUID)
  | activate (userId : UUID)
  | register (name email : String) (role : UserRole) (password : String)

/-- The call without its result. -/
def discard {α : Type} (x : Service α) : Service Unit := do
  let _ ← x

@[simp] theorem runs_discard {α : Type} {x : Service α} {ctx : Ctx} {db db' : Db} {u : Unit} :
    (discard x).Runs ctx db u db' ↔ ∃ a, x.Runs ctx db a db' := by
  simp [discard]

def Op.run : Op → Service Unit
  | .createItem name serialNo categoryId ownerType clientName purchaseDate actorId =>
    discard (InventoryService.createItem name serialNo categoryId ownerType clientName purchaseDate actorId)
  | .editItem itemId updates actorId => discard (InventoryService.editItem itemId updates actorId)
  | .changeStatus itemId status itNote actorId =>
    discard (InventoryService.changeStatus itemId status itNote actorId)
  | .updateBookingRange requestId assignedFrom assignedTo =>
    discard (AssignmentService.updateBookingRange requestId assignedFrom assignedTo)
  | .assign requestId itemId assignedFrom assignedTo isWfh actorId =>
    discard (AssignmentService.assign requestId itemId assignedFrom assignedTo isWfh actorId)
  | .directAssign itemId employeeId assignedFrom assignedTo actorId =>
    discard (AssignmentService.directAssign itemId employeeId assignedFrom assignedTo actorId)
  | .reject requestId rejectedReason itDecisionNote actorId =>
    discard (RequestService.reject requestId rejectedReason itDecisionNote actorId)
  | .cancel requestId rejectedReason actorId =>
    discard (RequestService.cancel requestId rejectedReason actorId)
  | .escalateToManager requestId managerId =>
    discard (RequestService.escalateToManager requestId managerId)
  | .ship requestId shipTrackingUrl actorId => discard (ShippingService.ship requestId shipTrackingUrl actorId)
  | .confirmDelivery requestId actorId => discard (ShippingService.confirmDelivery requestId actorId)
  | .completeReturn requestId nextStatus actorId =>
    discard (ShippingService.completeReturn requestId nextStatus actorId)
  | .start supportRequestId actorId => discard (SupportService.start supportRequestId actorId)
  | .resolve supportRequestId resolution itNote swappedToItemId oldItemNextStatus actorId =>
    discard (SupportService.resolve supportRequestId resolution itNote swappedToItemId oldItemNextStatus
      actorId)
  | .approveExtension extensionRequestId itNote actorId =>
    discard (ExtensionService.approve extensionRequestId itNote actorId)
  | .rejectExtension extensionRequestId itNote actorId =>
    discard (ExtensionService.reject extensionRequestId itNote actorId)
  | .createUser name email role => discard (UserService.createUser name email role)
  | .changeRole userId role => discard (UserService.changeRole userId role)
  | .deactivate userId => discard (UserService.deactivate userId)
  | .activate userId => discard (UserService.activate userId)
  | .register name email role password => discard (AuthService.register name email role password)

/-- The payload passes the validators of its schema. -/
def Op.Admitted : Op → Prop
  | .createItem _ _ _ ownerType clientName _ _ => CreateItemRequest ownerType clientName
  | .changeStatus _ status _ _ => ChangeItemStatusRequest status
  | .updateBookingRange _ assignedFrom assignedTo => BookingRangeRequest assignedFrom assignedTo
  | .assign _ _ assignedFrom assignedTo _ _ => AssignRequestRequest assignedFrom assignedTo
  | .directAssign _ _ assignedFrom assignedTo _ => DirectAssignRequest assignedFrom assignedTo
  | .completeReturn _ nextStatus _ => CompleteReturnRequest nextStatus
  | .resolve _ resolution _ swappedToItemId oldItemNextStatus _ =>
    ResolveSupportRequestRequest resolution swappedToItemId oldItemNextStatus
  | .register _ _ _ password => RegisterRequest password
  | _ => True

instance (op : Op) : Decidable op.Admitted :=
  match op with
  | .createItem .. => inferInstanceAs (Decidable (CreateItemRequest _ _))
  | .changeStatus .. => inferInstanceAs (Decidable (ChangeItemStatusRequest _))
  | .updateBookingRange .. => inferInstanceAs (Decidable (BookingRangeRequest _ _))
  | .assign .. => inferInstanceAs (Decidable (AssignRequestRequest _ _))
  | .directAssign .. => inferInstanceAs (Decidable (DirectAssignRequest _ _))
  | .completeReturn .. => inferInstanceAs (Decidable (CompleteReturnRequest _))
  | .resolve .. => inferInstanceAs (Decidable (ResolveSupportRequestRequest _ _ _))
  | .register .. => inferInstanceAs (Decidable (RegisterRequest _))
  | .editItem .. | .reject .. | .cancel .. | .escalateToManager .. | .ship .. | .confirmDelivery ..
  | .start .. | .approveExtension .. | .rejectExtension .. | .createUser .. | .changeRole ..
  | .deactivate .. | .activate .. => isTrue trivial

/-- The calls that write requests or users alone. -/
def Op.leavesItems : Op → Bool
  | .updateBookingRange .. | .reject .. | .cancel .. | .escalateToManager .. | .createUser .. | .changeRole ..
  | .deactivate .. | .activate .. | .register .. => true
  | _ => false

theorem Op.items_of_leavesItems {ctx : Ctx} {db db' : Db} {op : Op} (hleaves : op.leavesItems = true)
    (h : op.run.Runs ctx db () db') : db'.items = db.items ∧ db'.deviceLog = db.deviceLog := by
  cases op <;> obtain ⟨row, h⟩ := runs_discard.mp h
  case updateBookingRange =>
    obtain ⟨r, d, -, -, -, -, -, -, rfl⟩ := AssignmentService.runs_updateBookingRange.mp h
    exact ⟨rfl, rfl⟩
  case reject =>
    obtain ⟨r, -, -, -, -, rfl⟩ := RequestService.runs_reject.mp h
    exact ⟨rfl, rfl⟩
  case cancel =>
    obtain ⟨r, -, -, -, -, rfl⟩ := RequestService.runs_cancel.mp h
    exact ⟨rfl, rfl⟩
  case escalateToManager =>
    obtain ⟨r, -, -, -, -, rfl⟩ := RequestService.runs_escalateToManager.mp h
    exact ⟨rfl, rfl⟩
  case createUser =>
    obtain ⟨user, hinsert, -⟩ := UserService.runs_createUser.mp h
    obtain ⟨-, _, -, -, -, -, rfl⟩ := UserService.runs_insertUser.mp hinsert
    exact ⟨rfl, rfl⟩
  case changeRole =>
    obtain ⟨v, -, v', -, -, -, rfl⟩ := UserService.runs_changeRole.mp h
    exact ⟨rfl, rfl⟩
  case deactivate =>
    obtain ⟨v, -, -, v', -, -, -, rfl⟩ := UserService.runs_deactivate.mp h
    exact ⟨rfl, rfl⟩
  case activate =>
    obtain ⟨v, -, v', -, -, -, rfl⟩ := UserService.runs_activate.mp h
    exact ⟨rfl, rfl⟩
  case register =>
    obtain ⟨user, hinsert⟩ := AuthService.runs_register h
    obtain ⟨-, _, -, -, -, -, rfl⟩ := UserService.runs_insertUser.mp hinsert
    exact ⟨rfl, rfl⟩
  all_goals exact absurd hleaves Bool.false_ne_true

/-! ### The employee and manager side -/

inductive PortalStep
  /-- An employee files a request. -/
  | fileRequest (request : Request)
  /-- A filed request enters the manager's or the IT queue. -/
  | submitRequest (requestId : UUID) (status : RequestStatus)
  /-- The manager approves or rejects. -/
  | decideRequest (requestId : UUID) (approved : Bool) (note : Option String) (now : Datetime)
  /-- An employee files a support ticket. -/
  | fileTicket (ticket : SupportRequest)
  /-- An employee asks for an extension. -/
  | fileExtension (extension : ExtensionRequest)
  /-- The manager decides on an extension. -/
  | decideExtension (extensionId : UUID) (approved : Bool) (note : Option String) (now : Datetime)
  /-- The holder of a work-from-home device sends it back. -/
  | initiateReturn (requestId : UUID) (returnTrackingUrl : Option String) (now : Datetime)

/-- A step that is not taken. -/
def outOfOrder : Failure := .assertionError

/-- The queues a request can be filed into. -/
def _FILED_STATUSES : List RequestStatus := [.requested, .pendingMgrApproval, .pendingItApproval]

/-- What the step writes; it happens only where its conditions hold. -/
def PortalStep.run : PortalStep → Service Unit
  | .fileRequest request => do
    raiseIf (¬ (request.assignedItemId = none ∧ request.status ∈ _FILED_STATUSES)) outOfOrder
    discard (RequestRepository.create request)
  | .submitRequest requestId status => do
    let request ← AssignmentService.getRequestOr404 requestId
    raiseIf (¬ (request.status = .requested ∧ (status = .pendingMgrApproval ∨ status = .pendingItApproval)))
      outOfOrder
    discard (RequestRepository.update { request with status := status })
  | .decideRequest requestId approved note now => do
    let request ← AssignmentService.getRequestOr404 requestId
    raiseIf (request.status ≠ .pendingMgrApproval) outOfOrder
    discard (RequestRepository.update { request with
      status := if approved then .pendingItApproval else .rejected
      mgrApprovalStatus := if approved then .approved else .rejected
      managerDecisionNote := note
      managerDecidedAt := some now
      rejectedBy := if approved then request.rejectedBy else some .manager })
  | .fileTicket ticket => do
    raiseIf (ticket.status ≠ .opened) outOfOrder
    discard (SQLAlchemyRepository.create ticket)
  | .fileExtension extension => do
    raiseIf (extension.status ≠ .pending) outOfOrder
    discard (SQLAlchemyRepository.create extension)
  | .decideExtension extensionId approved note now => do
    let extension ← ExtensionService.getExtensionOr404 extensionId
    raiseIf (extension.mgrApprovalStatus ≠ .pending) outOfOrder
    discard (ExtensionRequestRepository.update { extension with
      status := if approved then extension.status else .rejected
      mgrApprovalStatus := if approved then .approved else .rejected
      managerNote := note
      managerDecidedAt := some now })
  | .initiateReturn requestId returnTrackingUrl now => do
    let request ← AssignmentService.getRequestOr404 requestId
    let item ← ShippingService.getAssignedItemOr404 request
    raiseIf (¬ (request.isWfh = true ∧ request.status = .assigned ∧ item.status = .assigned)) outOfOrder
    let _ ← RequestRepository.update { request with
      returnTrackingUrl := returnTrackingUrl
      returnInitiatedAt := some now }
    discard (ItemRepository.update (item.setStatus .returnShippingPending))

namespace PortalStep

variable {ctx : Ctx} {db db' : Db} {q : UUID} {note url : Option String} {now : Datetime}

theorem runs_fileRequest {r : Request} : (fileRequest r).run.Runs ctx db () db' ↔
    (r.assignedItemId = none ∧ r.status ∈ _FILED_STATUSES) ∧
      ∃ r', db.requests.get? r.id = none ∧ Model.constraints db r' = .ok () ∧ r' = born ctx r ∧
        db' = db.addRequest r' := by
  simp [run]

theorem runs_submitRequest {s : RequestStatus} : (submitRequest q s).run.Runs ctx db () db' ↔
    ∃ r, db.requests.get? q = some r ∧
      (r.status = .requested ∧ (s = .pendingMgrApproval ∨ s = .pendingItApproval)) ∧
      ∃ r', Model.constraints db r' = .ok () ∧ r' = flushed ctx db { r with status := s } ∧
        db' = db.setRequest r' := by
  simp [run, and_assoc, or_iff_not_imp_left]

theorem runs_decideRequest {approved : Bool} :
    (decideRequest q approved note now).run.Runs ctx db () db' ↔
      ∃ r, db.requests.get? q = some r ∧ r.status = .pendingMgrApproval ∧
        ∃ r', Model.constraints db r' = .ok () ∧
          r' = flushed ctx db { r with
            status := if approved then .pendingItApproval else .rejected
            mgrApprovalStatus := if approved then .approved else .rejected
            managerDecisionNote := note
            managerDecidedAt := some now
            rejectedBy := if approved then r.rejectedBy else some .manager } ∧
          db' = db.setRequest r' := by
  simp [run, and_assoc]

theorem runs_fileTicket {t : SupportRequest} : (fileTicket t).run.Runs ctx db () db' ↔
    t.status = .opened ∧
      ∃ t', db.supportRequests.get? t.id = none ∧ Model.constraints db t' = .ok () ∧ t' = born ctx t ∧
        db' = db.addSupportRequest t' := by
  simp [run]

theorem runs_fileExtension {x : ExtensionRequest} : (fileExtension x).run.Runs ctx db () db' ↔
    x.status = .pending ∧
      ∃ x', db.extensionRequests.get? x.id = none ∧ Model.constraints db x' = .ok () ∧ x' = born ctx x ∧
        db' = db.addExtensionRequest x' := by
  simp [run]

theorem runs_decideExtension {approved : Bool} :
    (decideExtension q approved note now).run.Runs ctx db () db' ↔
      ∃ x, db.extensionRequests.get? q = some x ∧ x.mgrApprovalStatus = .pending ∧
        ∃ x', Model.constraints db x' = .ok () ∧
          x' = flushed ctx db { x with
            status := if approved then x.status else .rejected
            mgrApprovalStatus := if approved then .approved else .rejected
            managerNote := note
            managerDecidedAt := some now } ∧
          db' = db.setExtensionRequest x' := by
  simp [run, and_assoc]

theorem runs_initiateReturn : (initiateReturn q url now).run.Runs ctx db () db' ↔
    ∃ r, db.requests.get? q = some r ∧
      ∃ i, (∃ d, r.assignedItemId = some d ∧ db.items.get? d = some i) ∧
        (r.isWfh = true ∧ r.status = .assigned ∧ i.status = .assigned) ∧
        ∃ r', r' = flushed ctx db { r with returnTrackingUrl := url, returnInitiatedAt := some now } ∧
          Model.constraints db r' = .ok () ∧
        ∃ i', i' = flushed ctx (db.setRequest r') (i.setStatus .returnShippingPending) ∧
          Model.constraints (db.setRequest r') i' = .ok () ∧
        db' = (db.setRequest r').setItem i' := by
  simp [run, and_assoc]

/-- The steps of the employees' side append nothing to the log, and only the holder's return writes an item. -/
theorem frame {step : PortalStep} (h : step.run.Runs ctx db () db') : db'.deviceLog = db.deviceLog ∧
    ((∀ q url now, step ≠ .initiateReturn q url now) → db'.items = db.items) := by
  cases step with
  | fileRequest r =>
    obtain ⟨-, r', -, -, -, rfl⟩ := runs_fileRequest.mp h
    exact ⟨rfl, fun _ => rfl⟩
  | submitRequest q s =>
    obtain ⟨r, -, -, r', -, -, rfl⟩ := runs_submitRequest.mp h
    exact ⟨rfl, fun _ => rfl⟩
  | decideRequest q approved note now =>
    obtain ⟨r, -, -, r', -, -, rfl⟩ := runs_decideRequest.mp h
    exact ⟨rfl, fun _ => rfl⟩
  | fileTicket t =>
    obtain ⟨-, t', -, -, -, rfl⟩ := runs_fileTicket.mp h
    exact ⟨rfl, fun _ => rfl⟩
  | fileExtension x =>
    obtain ⟨-, x', -, -, -, rfl⟩ := runs_fileExtension.mp h
    exact ⟨rfl, fun _ => rfl⟩
  | decideExtension q approved note now =>
    obtain ⟨x, -, -, x', -, -, rfl⟩ := runs_decideExtension.mp h
    exact ⟨rfl, fun _ => rfl⟩
  | initiateReturn q url now =>
    obtain ⟨r, -, i, -, -, r', -, -, i', -, -, rfl⟩ := runs_initiateReturn.mp h
    exact ⟨rfl, fun hother => absurd rfl (hother q url now)⟩

end PortalStep

/-! ### Events and runs -/

inductive Event
  | service (ctx : Ctx) (op : Op)
  | portal (ctx : Ctx) (step : PortalStep)

/-- The database after the event. -/
def Event.exec : Event → Db → Db
  | .service ctx op, db => op.run.exec ctx db
  | .portal ctx step, db => step.run.exec ctx db

/-- The transition relation of the system. -/
def Step (db : Db) (e : Event) (db' : Db) : Prop := e.exec db = db'

/-- The event succeeds, and takes `db` to `db'`. -/
inductive Event.Commits (db : Db) : Event → Db → Prop
  | service {ctx : Ctx} {op : Op} {db' : Db} (h : op.run.Runs ctx db () db') :
      Commits db (.service ctx op) db'
  | portal {ctx : Ctx} {step : PortalStep} {db' : Db} (h : step.run.Runs ctx db () db') :
      Commits db (.portal ctx step) db'

/-- **An event that does not commit changes nothing.** -/
theorem Step.cases {db db' : Db} {e : Event} (h : Step db e db') : db' = db ∨ e.Commits db db' := by
  subst h
  cases e with
  | service ctx op =>
    rcases op.run.exec_cases ctx db with h | ⟨⟨⟩, h⟩
    · exact .inl h
    · exact .inr (.service h)
  | portal ctx step =>
    rcases step.run.exec_cases ctx db with h | ⟨⟨⟩, h⟩
    · exact .inl h
    · exact .inr (.portal h)

end AssetPilot
