import AssetPilot.Lib.Weakest
import AssetPilot.Services.DashboardService
import AssetPilot.Services.Views

/-!
# The operations that read

The reading operations of the services, as one family. None of them writes, and what they raise is that something is
not there; only the lookup of the accepted handover of a device could find too many rows.
-/

namespace AssetPilot

open Relational Txn Like

variable {collation : Collation}

/-- A reading operation with its parameters; `order` is the database's answer to its `ORDER BY`. -/
inductive View (collation : Collation)
  | summary
  | recentRequests (limit : Nat) (order : OrderBy RequestRepository.recentOrder)
  | openSupport (limit : Nat) (order : OrderBy SupportRequestRepository.filedOrder)
  | itemCategories (order : OrderBy (Asc fun category : ItemCategory => collation.sortKey category.name))
  | managers (order : OrderBy (Asc fun user : User => collation.sortKey user.name))
  | employees (order : OrderBy (Asc fun user : User => collation.sortKey user.name))
  | extensionRequests (status : Option ExtensionStatus) (order : OrderBy ExtensionRequestRepository.extensionOrder)
  | extensionDetail (extensionRequestId : UUID)
  | handovers (status : Option HandoverStatus) (itemId : Option UUID)
      (order : OrderBy HandoverRequestRepository.handoverOrder)
  | items (categoryId : Option UUID) (status : Option DeviceStatus) (ownerType : Option OwnerType)
      (search : Option String) (pagination : PaginationParams)
      (order : OrderBy (Desc fun row : ItemRepository.ItemListRow => row.item.createdAt))
  | clientAvailable (categoryId : Option UUID) (search : Option String)
      (order : OrderBy (Asc fun row : ItemRepository.ClientAvailableRow => collation.sortKey row.item.name))
  | itemDetail (itemId : UUID) (order : OrderBy (Desc Request.createdAt))
  | timeline (itemId : UUID) (milestonesOnly : Bool) (order : OrderBy DeviceLogRepository.timeOrder)
  | itemBookings (itemId : UUID)
  | requests (status : Option RequestStatus) (categoryId : Option UUID) (priority : Option RequestPriority)
      (requestedFrom requestedTo : Option Datetime) (search : Option String) (pagination : PaginationParams)
      (order : OrderBy (Desc fun row : RequestRepository.RequestListRow => row.request.createdAt))
  | requestDetail (requestId : UUID)
  | itApprovals (pagination : PaginationParams) (order : OrderBy RequestRepository.approvalOrder)
  | suggestedDevices (requestId : UUID)
  | outbound (order : OrderBy RequestRepository.queueOrder)
  | returns (order : OrderBy RequestRepository.queueOrder)
  | supportRequests (status : Option SupportStatus) (type : Option SupportType) (itemId : Option UUID)
      (order : OrderBy SupportRequestRepository.filedOrder)
  | supportDetail (supportRequestId : UUID)
  | users (role : Option UserRole) (isActive : Option Bool) (search : Option String) (pagination : PaginationParams)
      (order : OrderBy (Desc fun row : UserRepository.UserListRow => row.user.createdAt))

namespace View

/-- What the service returns. -/
def Result : View collation → Type
  | summary => DashboardService.DashboardSummary
  | recentRequests .. => List RequestRepository.RequestListRow
  | openSupport .. | supportRequests .. => List SupportRequestRepository.SupportListRow
  | itemCategories .. => List ItemCategory
  | managers .. | employees .. => List UserSummary
  | extensionRequests .. => List ExtensionRequestRepository.ExtensionListRow
  | extensionDetail .. => ExtensionService.ExtensionDetailResult
  | handovers .. => List HandoverRequestRepository.HandoverListRow
  | items .. => Page ItemRepository.ItemListRow
  | clientAvailable .. => List ItemRepository.ClientAvailableRow
  | itemDetail .. => InventoryService.ItemDetail
  | timeline .. => List DeviceLogService.DeviceLogEntry
  | itemBookings .. => List BookingRow
  | requests .. | itApprovals .. => Page RequestRepository.RequestListRow
  | requestDetail .. => RequestRepository.RequestDetailRow
  | suggestedDevices .. => List ItemRepository.SuggestedDeviceRow
  | outbound .. | returns .. => List ShippingService.ShippingQueueResult
  | supportDetail .. => SupportService.SupportDetailResult
  | users .. => Page UserService.UserListEntry

def run : (view : View collation) → Service view.Result
  | summary => DashboardService.getSummary
  | recentRequests limit order => DashboardService.getRecentRequests limit order
  | openSupport limit order => DashboardService.getOpenSupport limit order
  | itemCategories order => DropdownService.listItemCategories collation order
  | managers order => DropdownService.listManagers collation order
  | employees order => DropdownService.listEmployees collation order
  | extensionRequests status order => ExtensionService.listExtensionRequests status order
  | extensionDetail extensionRequestId => do
    let row ← ExtensionService.getDetail extensionRequestId
    return ExtensionService.detailResultFrom row
  | handovers status itemId order => HandoverService.list status itemId order
  | items categoryId status ownerType search pagination order =>
    ItemRepository.listItems collation categoryId status ownerType search pagination order
  | clientAvailable categoryId search order => AssignmentService.clientAvailable collation categoryId search order
  | itemDetail itemId order => InventoryService.getDetail itemId order
  | timeline itemId milestonesOnly order => DeviceLogService.getTimeline itemId milestonesOnly order
  | itemBookings itemId => AssignmentService.itemBookings itemId
  | requests status categoryId priority requestedFrom requestedTo search pagination order =>
    RequestRepository.listRequests collation status categoryId priority requestedFrom requestedTo search pagination
      order
  | requestDetail requestId => RequestService.getDetail requestId
  | itApprovals pagination order => RequestRepository.listItApprovals pagination order
  | suggestedDevices requestId => AssignmentService.suggestedDevices requestId
  | outbound order => ShippingService.listOutbound order
  | returns order => ShippingService.listReturns order
  | supportRequests status type itemId order => SupportService.listSupportRequests status type itemId order
  | supportDetail supportRequestId => SupportService.getDetail supportRequestId
  | users role isActive search pagination order =>
    UserService.listUsers collation role isActive search pagination order

/-! ### What the driver is handed -/

def texts : View collation → List String
  | items _ _ _ search .. | clientAvailable _ search _ | requests _ _ _ _ _ search .. | users _ _ search .. =>
    search.toList
  | _ => []

def datetimes : View collation → List Datetime
  | requests _ _ _ requestedFrom requestedTo .. => requestedFrom.toList ++ requestedTo.toList
  | _ => []

/-- The arguments of `OFFSET` and `LIMIT`. -/
def numbers : View collation → List Nat
  | items _ _ _ _ pagination _ | requests _ _ _ _ _ _ pagination _ | itApprovals pagination _
  | users _ _ _ pagination _ => [pagination.offset, pagination.limit]
  | recentRequests limit _ | openSupport limit _ => [limit]
  | _ => []

/-! ### What they raise -/

section

variable {ctx : Ctx} {db : Db} {E : Failure → Prop}

theorem reads_ownerOf (ownerId : Option UUID) : Reads E (InventoryService.ownerOf ownerId) ctx db := by
  cases ownerId <;> rfl

theorem reads_requestSummaryOf (owner : Option User) (request : Option Request) :
    Reads E (InventoryService.requestSummaryOf owner request) ctx db := by
  cases request with
  | none => rfl
  | some request =>
    have hrequester : Reads E (InventoryService.requesterOf owner request) ctx db := by
      unfold InventoryService.requesterOf
      split
      · split_ifs <;> rfl
      · rfl
    exact hrequester.bind fun _ => rfl

theorem reads_handoverSummaryOf (handover : Option HandoverRequest) :
    Reads E (InventoryService.handoverSummaryOf handover) ctx db := by
  cases handover <;> rfl

theorem reads_itemDetail (hmissing : ∀ m, E (notFoundException m))
    (hmany : ∀ itemId, 1 < (HandoverRequestRepository.accepted db itemId).length → E multipleResultsFound)
    (itemId : UUID) (order : OrderBy (Desc Request.createdAt)) :
    Reads E (InventoryService.getDetail itemId order) ctx db := by
  have hitem : Reads E (InventoryService.getItemOr404 itemId) ctx db :=
    Reads.bind rfl fun _ => reads_orRaise (hmissing _)
  have haccepted : ∀ itemId, Reads E (HandoverRequestRepository.getAcceptedForItem itemId) ctx db := fun itemId =>
    wp_bind.mpr ((reads_raiseIf (hmany itemId)).bind fun _ => reads_pure _)
  refine hitem.bind fun item => Reads.bind rfl fun category => (reads_orRaise (hmissing _)).bind fun category => ?_
  refine (reads_ownerOf _).bind fun owner => Reads.bind rfl fun request => Reads.bind rfl fun tickets => ?_
  refine (haccepted _).bind fun handover => (reads_requestSummaryOf _ _).bind fun summary => ?_
  exact (reads_handoverSummaryOf _).bind fun _ => rfl

/-- **A view leaves the database**, and raises that something is missing or that there is too much. -/
theorem reads_run (view : View collation) (hmissing : ∀ m, E (notFoundException m))
    (hmany : ∀ itemId, 1 < (HandoverRequestRepository.accepted db itemId).length → E multipleResultsFound) :
    Reads E view.run ctx db := by
  cases view with
  | itemDetail itemId order => exact reads_itemDetail hmissing hmany itemId order
  | extensionDetail =>
    exact Reads.bind (Reads.bind rfl fun _ => reads_orRaise (hmissing _)) fun _ => reads_pure _
  | supportDetail => exact Reads.bind rfl fun _ => (reads_orRaise (hmissing _)).bind fun _ => reads_pure _
  | requestDetail => exact Reads.bind rfl fun _ => reads_orRaise (hmissing _)
  | suggestedDevices =>
    exact Reads.bind (Reads.bind rfl fun _ => reads_orRaise (hmissing _)) fun _ => rfl
  | itemBookings => exact Reads.bind (Reads.bind rfl fun _ => reads_orRaise (hmissing _)) fun _ => rfl
  | _ => rfl

theorem runs_db (view : View collation) {result : view.Result} {db' : Db} (h : view.run.Runs ctx db result db') :
    db' = db := by
  have hreads : Reads (fun _ => True) view.run ctx db := view.reads_run (fun _ => trivial) fun _ _ => trivial
  exact hreads.runs h

end

end View

end AssetPilot
