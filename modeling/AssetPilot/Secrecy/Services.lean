import AssetPilot.Operations
import AssetPilot.Secrecy.Users

/-!
# Services that see no hash

Every writing operation ends in the same way from stores that differ in password hashes, with the same result, and
leaves such stores. The users that a service reads it reads without their hashes.
-/

namespace AssetPilot

open Relational Txn
open DeviceLogService (unseeing_append)

/-! ### Assignment and the approval queue -/

namespace AssignmentService

theorem unseeing_getRequestOr404 (id : UUID) : Unseeing (getRequestOr404 id) :=
  (RequestRepository.unseeing_getById id).bind fun _ => .orRaise _ _

theorem unseeing_getItemOr404 (id : UUID) : Unseeing (getItemOr404 id) :=
  (ItemRepository.unseeing_getById id).bind fun _ => .orRaise _ _

theorem unseeing_updateBookingRange (requestId : UUID) (f t : Datetime) :
    Unseeing (updateBookingRange requestId f t) := by
  refine (unseeing_getRequestOr404 _).bind fun _ => (Blind.raiseIf _ _).bind fun _ => ?_
  refine (Blind.orRaise _ _).bind fun _ => ?_
  refine (RequestRepository.unseeing_hasOverlappingAssignedBooking _ _ _ _).bind fun _ => ?_
  exact (Blind.raiseIf _ _).bind fun _ => RequestRepository.unseeing_update _

theorem unseeing_assign (requestId itemId : UUID) (f t : Datetime) (wfh : Bool) (actorId : UUID) :
    Unseeing (assign requestId itemId f t wfh actorId) := by
  refine (unseeing_getRequestOr404 _).bind fun _ => (Blind.raiseIf _ _).bind fun _ => ?_
  refine (unseeing_getItemOr404 _).bind fun _ => (Blind.raiseIf _ _).bind fun _ => (Blind.raiseIf _ _).bind fun _ => ?_
  refine (RequestRepository.unseeing_hasOverlappingAssignedBooking _ _ _ _).bind fun _ => ?_
  refine (Blind.raiseIf _ _).bind fun _ => (unseeing_utcNow 0).bind fun _ => ?_
  refine (Blind.mapFailure _ ?_).bind fun _ => (unseeing_append _).bind fun _ => .pure _
  exact (RequestRepository.unseeing_update _).bind fun _ => (ItemRepository.unseeing_update _).bind fun _ => .pure _

/-- Of the employee only the `is_active` is read. -/
theorem unseeing_directAssign (itemId employeeId : UUID) (f t : Datetime) (actorId : UUID) :
    Unseeing (directAssign itemId employeeId f t actorId) := by
  refine (unseeing_getItemOr404 _).bind fun _ => (Blind.raiseIf _ _).bind fun _ => (Blind.raiseIf _ _).bind fun _ => ?_
  refine (RequestRepository.unseeing_hasOverlappingAssignedBooking _ _ _ _).bind fun _ => ?_
  refine (Blind.raiseIf _ _).bind fun _ => Unseeing.of_user (fun _ _ _ => UserRepository.coupled_getById) ?_ fun _ => ?_
  · rintro (_ | employee) <;> rfl
  refine (Blind.orRaise _ _).bind fun _ => (Blind.raiseIf _ _).bind fun _ => ?_
  refine (unseeing_utcNow 0).bind fun _ => (unseeing_uuid4 0).bind fun _ => ?_
  refine (Blind.mapFailure _ ?_).bind fun _ => (unseeing_append _).bind fun _ => .pure _
  exact (RequestRepository.unseeing_create _).bind fun _ => (ItemRepository.unseeing_update _).bind fun _ => .pure _

end AssignmentService

namespace RequestService

theorem unseeing_getRequestOr404 (id : UUID) : Unseeing (getRequestOr404 id) :=
  (RequestRepository.unseeing_getById id).bind fun _ => .orRaise _ _

theorem unseeing_reject (requestId : UUID) (reason : String) (note : Option String) (actorId : UUID) :
    Unseeing (reject requestId reason note actorId) := by
  refine (unseeing_getRequestOr404 _).bind fun _ => (Blind.raiseIf _ _).bind fun _ => ?_
  exact (unseeing_utcNow 0).bind fun _ => RequestRepository.unseeing_update _

theorem unseeing_cancel (requestId : UUID) (reason : String) (actorId : UUID) :
    Unseeing (cancel requestId reason actorId) := by
  refine (unseeing_getRequestOr404 _).bind fun _ => (Blind.raiseIf _ _).bind fun _ => ?_
  exact (unseeing_utcNow 0).bind fun _ => RequestRepository.unseeing_update _

/-- Of the requester only the `manager_id` is read. -/
theorem unseeing_resolveManager (r : Request) (managerId : Option UUID) : Unseeing (resolveManager r managerId) := by
  cases managerId with
  | some m => exact .pure _
  | none =>
    refine Unseeing.of_user (fun _ _ _ => UserRepository.coupled_getById) ?_ fun _ => .pure _
    rintro (_ | requester) <;> rfl

theorem unseeing_escalateToManager (requestId : UUID) (managerId : Option UUID) :
    Unseeing (escalateToManager requestId managerId) := by
  refine (unseeing_getRequestOr404 _).bind fun _ => (Blind.raiseIf _ _).bind fun _ => ?_
  exact (unseeing_resolveManager _ _).bind fun _ => RequestRepository.unseeing_update _

end RequestService

/-! ### Shipping and returns -/

namespace ShippingService

theorem unseeing_getRequestOr404 (id : UUID) : Unseeing (getRequestOr404 id) :=
  (RequestRepository.unseeing_getById id).bind fun _ => .orRaise _ _

theorem unseeing_getAssignedItemOr404 (r : Request) : Unseeing (getAssignedItemOr404 r) :=
  (Blind.orRaise _ _).bind fun _ => (ItemRepository.unseeing_getById _).bind fun _ => .orRaise _ _

theorem unseeing_ship (requestId : UUID) (url : String) (actorId : UUID) : Unseeing (ship requestId url actorId) := by
  refine (unseeing_getRequestOr404 _).bind fun _ => (Blind.raiseIf _ _).bind fun _ => ?_
  refine (unseeing_getAssignedItemOr404 _).bind fun _ => (Blind.raiseIf _ _).bind fun _ => ?_
  refine (unseeing_utcNow 0).bind fun _ => (RequestRepository.unseeing_update _).bind fun _ => ?_
  exact (ItemRepository.unseeing_update _).bind fun _ => (unseeing_append _).bind fun _ => .pure _

theorem unseeing_confirmDelivery (requestId actorId : UUID) : Unseeing (confirmDelivery requestId actorId) := by
  refine (unseeing_getRequestOr404 _).bind fun _ => (unseeing_getAssignedItemOr404 _).bind fun _ => ?_
  refine (Blind.raiseIf _ _).bind fun _ => (unseeing_utcNow 0).bind fun _ => ?_
  refine (RequestRepository.unseeing_update _).bind fun _ => (ItemRepository.unseeing_update _).bind fun _ => ?_
  exact (unseeing_append _).bind fun _ => .pure _

theorem unseeing_autoCloseOpenSupport (itemId : UUID) : Unseeing (autoCloseOpenSupport itemId) := by
  refine (SupportRequestRepository.unseeing_listOpenForItem _).bind fun _ => .forEach (fun _ _ => ?_) _ _
  refine (unseeing_utcNow _).bind fun _ => (SupportRequestRepository.unseeing_update _).bind fun _ => ?_
  exact (unseeing_append _).bind fun _ => .pure _

theorem unseeing_completeReturn (requestId : UUID) (next : DeviceStatus) (actorId : UUID) :
    Unseeing (completeReturn requestId next actorId) := by
  refine (unseeing_getRequestOr404 _).bind fun _ => (unseeing_getAssignedItemOr404 _).bind fun _ => ?_
  refine (Blind.raiseIf _ _).bind fun _ => (unseeing_utcNow 0).bind fun _ => ?_
  refine (RequestRepository.unseeing_update _).bind fun _ => (ItemRepository.unseeing_update _).bind fun _ => ?_
  refine (unseeing_append _).bind fun _ => (unseeing_append _).bind fun _ => ?_
  exact (unseeing_autoCloseOpenSupport _).bind fun _ => .pure _

end ShippingService

/-! ### Support -/

namespace SupportService

theorem unseeing_getTicketOr404 (id : UUID) : Unseeing (getTicketOr404 id) :=
  (SupportRequestRepository.unseeing_getById id).bind fun _ => .orRaise _ _

theorem unseeing_getItemOr404 (id : UUID) : Unseeing (getItemOr404 id) :=
  (ItemRepository.unseeing_getById id).bind fun _ => .orRaise _ _

theorem unseeing_startRepair (ticket : SupportRequest) (actorId : UUID) : Unseeing (startRepair ticket actorId) := by
  unfold startRepair
  split
  · refine (unseeing_getItemOr404 _).bind fun _ => (ItemRepository.unseeing_update _).bind fun _ => ?_
    exact (unseeing_append _).bind fun _ => .pure _
  · exact .pure _

theorem unseeing_start (ticketId actorId : UUID) : Unseeing (start ticketId actorId) := by
  refine (unseeing_getTicketOr404 _).bind fun _ => (Blind.raiseIf _ _).bind fun _ => ?_
  refine (SupportRequestRepository.unseeing_update _).bind fun _ => ?_
  exact (unseeing_startRepair _ _).bind fun _ => .pure _

theorem unseeing_applyResolution (ticket : SupportRequest) (item : Item) (resolution : SupportResolution)
    (newId : Option UUID) (next : Option DeviceStatus) (actorId : UUID) :
    Unseeing (applyResolution ticket item resolution newId next actorId) := by
  cases resolution with
  | remoteResolved => exact .pure _
  | repairedInPlace =>
    refine (Blind.raiseIf _ _).bind fun _ => (ItemRepository.unseeing_update _).bind fun _ => ?_
    exact (unseeing_append _).bind fun _ => .pure _
  | swapped =>
    refine (Blind.orRaise _ _).bind fun _ => (Blind.orRaise _ _).bind fun _ => ?_
    refine (Blind.raiseIf _ _).bind fun _ => (Blind.orRaise _ _).bind fun _ => ?_
    refine (unseeing_getItemOr404 _).bind fun _ => (Blind.raiseIf _ _).bind fun _ => ?_
    refine (Blind.raiseIf _ _).bind fun _ => (RequestRepository.unseeing_getById _).bind fun _ => ?_
    refine (Blind.orRaise _ _).bind fun _ => (RequestRepository.unseeing_update _).bind fun _ => ?_
    refine (ItemRepository.unseeing_update _).bind fun _ => (ItemRepository.unseeing_update _).bind fun _ => ?_
    exact (unseeing_append _).bind fun _ => (unseeing_append _).bind fun _ => .pure _
  | markedLost =>
    refine (Blind.orRaise _ _).bind fun _ => (RequestRepository.unseeing_getById _).bind fun _ => ?_
    refine (Blind.orRaise _ _).bind fun _ => (ItemRepository.unseeing_update _).bind fun _ => ?_
    refine (unseeing_utcNow 0).bind fun _ => (RequestRepository.unseeing_update _).bind fun _ => ?_
    exact (unseeing_append _).bind fun _ => .pure _

theorem unseeing_resolve (ticketId : UUID) (resolution : SupportResolution) (note : Option String)
    (newId : Option UUID) (next : Option DeviceStatus) (actorId : UUID) :
    Unseeing (resolve ticketId resolution note newId next actorId) := by
  refine (unseeing_getTicketOr404 _).bind fun _ => (Blind.raiseIf _ _).bind fun _ => ?_
  refine (unseeing_getItemOr404 _).bind fun _ => (unseeing_applyResolution _ _ _ _ _ _).bind fun _ => ?_
  refine (unseeing_utcNow _).bind fun _ => (SupportRequestRepository.unseeing_update _).bind fun _ => ?_
  exact (unseeing_append _).bind fun _ => .pure _

end SupportService

/-! ### Extensions -/

namespace ExtensionService

theorem unseeing_getExtensionOr404 (id : UUID) : Unseeing (getExtensionOr404 id) :=
  (ExtensionRequestRepository.unseeing_getById id).bind fun _ => .orRaise _ _

theorem unseeing_getParentRequestOr404 (id : UUID) : Unseeing (getParentRequestOr404 id) :=
  (RequestRepository.unseeing_getById id).bind fun _ => .orRaise _ _

theorem unseeing_approve (extensionId : UUID) (note : Option String) (actorId : UUID) :
    Unseeing (approve extensionId note actorId) := by
  refine (unseeing_getExtensionOr404 _).bind fun _ => (Blind.raiseIf _ _).bind fun _ => ?_
  refine (Blind.raiseIf _ _).bind fun _ => (unseeing_getParentRequestOr404 _).bind fun _ => ?_
  refine (RequestRepository.unseeing_update _).bind fun _ => (unseeing_utcNow 0).bind fun _ => ?_
  refine (ExtensionRequestRepository.unseeing_update _).bind fun _ => (Blind.orRaise _ _).bind fun _ => ?_
  exact (unseeing_append _).bind fun _ => .pure _

theorem unseeing_reject (extensionId : UUID) (note : Option String) (actorId : UUID) :
    Unseeing (reject extensionId note actorId) := by
  refine (unseeing_getExtensionOr404 _).bind fun _ => (Blind.raiseIf _ _).bind fun _ => ?_
  refine (unseeing_getParentRequestOr404 _).bind fun _ => (unseeing_utcNow 0).bind fun _ => ?_
  refine (ExtensionRequestRepository.unseeing_update _).bind fun _ => (Blind.orRaise _ _).bind fun _ => ?_
  exact (unseeing_append _).bind fun _ => .pure _

end ExtensionService

/-! ### Inventory -/

namespace InventoryService

theorem unseeing_getItemOr404 (id : UUID) : Unseeing (getItemOr404 id) :=
  (ItemRepository.unseeing_getById id).bind fun _ => .orRaise _ _

theorem unseeing_createItem (name serialNo : String) (categoryId : UUID) (ownerType : OwnerType)
    (clientName : Option String) (date : Option Date) (actorId : UUID) :
    Unseeing (createItem name serialNo categoryId ownerType clientName date actorId) := by
  refine (ItemCategoryRepository.unseeing_getById _).bind fun _ => (Blind.raiseIf _ _).bind fun _ => ?_
  refine (ItemRepository.unseeing_getBySerialNo _).bind fun _ => (Blind.raiseIf _ _).bind fun _ => ?_
  refine (unseeing_uuid4 0).bind fun _ => (unseeing_uuid4 1).bind fun _ => ?_
  exact (ItemRepository.unseeing_create _).bind fun _ => (unseeing_append _).bind fun _ => .pure _

theorem unseeing_editItem (itemId : UUID) (updates : ItemUpdates) (actorId : UUID) :
    Unseeing (editItem itemId updates actorId) := by
  have hcategory (categoryId : Option UUID) : Unseeing (checkCategory categoryId) := by
    cases categoryId with
    | none => exact .pure _
    | some c => exact (ItemCategoryRepository.unseeing_getById _).bind fun _ => .raiseIf _ _
  have hlog (itemId : UUID) (changes : List (String × FieldChange)) : Unseeing (logChanges itemId actorId changes) := by
    cases changes with
    | nil => exact .pure _
    | cons change changes => exact (unseeing_append _).bind fun _ => .pure _
  refine (unseeing_getItemOr404 _).bind fun _ => (hcategory _).bind fun _ => ?_
  exact (ItemRepository.unseeing_update _).bind fun _ => (hlog _ _).bind fun _ => .pure _

theorem unseeing_changeStatus (itemId : UUID) (status : DeviceStatus) (note : Option String) (actorId : UUID) :
    Unseeing (changeStatus itemId status note actorId) := by
  refine (unseeing_getItemOr404 _).bind fun _ => (ItemRepository.unseeing_update _).bind fun _ => ?_
  exact (unseeing_append _).bind fun _ => .pure _

end InventoryService

/-! ### The calls -/

theorem Unseeing.discard {α : Type} {x : Service α} (hx : Unseeing x) : Unseeing (discard x) := hx.bind fun _ => .pure _

theorem Op.unseeing_run (op : Op) : Unseeing op.run := by
  cases op with
  | createItem => exact (InventoryService.unseeing_createItem _ _ _ _ _ _ _).discard
  | editItem => exact (InventoryService.unseeing_editItem _ _ _).discard
  | changeStatus => exact (InventoryService.unseeing_changeStatus _ _ _ _).discard
  | updateBookingRange => exact (AssignmentService.unseeing_updateBookingRange _ _ _).discard
  | assign => exact (AssignmentService.unseeing_assign _ _ _ _ _ _).discard
  | directAssign => exact (AssignmentService.unseeing_directAssign _ _ _ _ _).discard
  | reject => exact (RequestService.unseeing_reject _ _ _ _).discard
  | cancel => exact (RequestService.unseeing_cancel _ _ _).discard
  | escalateToManager => exact (RequestService.unseeing_escalateToManager _ _).discard
  | ship => exact (ShippingService.unseeing_ship _ _ _).discard
  | confirmDelivery => exact (ShippingService.unseeing_confirmDelivery _ _).discard
  | completeReturn => exact (ShippingService.unseeing_completeReturn _ _ _).discard
  | start => exact (SupportService.unseeing_start _ _).discard
  | resolve => exact (SupportService.unseeing_resolve _ _ _ _ _ _).discard
  | approveExtension => exact (ExtensionService.unseeing_approve _ _ _).discard
  | rejectExtension => exact (ExtensionService.unseeing_reject _ _ _).discard
  | createUser => exact (UserService.unseeing_createUser _ _ _).discard
  | changeRole => exact (UserService.unseeing_changeRole _ _).discard
  | deactivate => exact (UserService.unseeing_deactivate _).discard
  | activate => exact (UserService.unseeing_activate _).discard
  | register => exact (AuthService.unseeing_register _ _ _ _).discard

theorem PortalStep.unseeing_run (step : PortalStep) : Unseeing step.run := by
  cases step with
  | fileRequest r => exact (Blind.raiseIf _ _).bind fun _ => (RequestRepository.unseeing_create r).discard
  | submitRequest =>
    refine (AssignmentService.unseeing_getRequestOr404 _).bind fun _ => (Blind.raiseIf _ _).bind fun _ => ?_
    exact (RequestRepository.unseeing_update _).discard
  | decideRequest =>
    refine (AssignmentService.unseeing_getRequestOr404 _).bind fun _ => (Blind.raiseIf _ _).bind fun _ => ?_
    exact (RequestRepository.unseeing_update _).discard
  | fileTicket t => exact (Blind.raiseIf _ _).bind fun _ => (SQLAlchemyRepository.unseeing_create t).discard
  | fileExtension x => exact (Blind.raiseIf _ _).bind fun _ => (SQLAlchemyRepository.unseeing_create x).discard
  | decideExtension =>
    refine (ExtensionService.unseeing_getExtensionOr404 _).bind fun _ => (Blind.raiseIf _ _).bind fun _ => ?_
    exact (ExtensionRequestRepository.unseeing_update _).discard
  | initiateReturn =>
    refine (AssignmentService.unseeing_getRequestOr404 _).bind fun _ => ?_
    refine (ShippingService.unseeing_getAssignedItemOr404 _).bind fun _ => (Blind.raiseIf _ _).bind fun _ => ?_
    exact (RequestRepository.unseeing_update _).bind fun _ => (ItemRepository.unseeing_update _).discard

end AssetPilot
