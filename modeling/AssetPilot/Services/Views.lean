import AssetPilot.Repositories.Details
import AssetPilot.Services.ExtensionService
import AssetPilot.Services.InventoryService
import AssetPilot.Services.UserService

/-!
# The reading operations

The composite view of an item (`InventoryService.get_detail`), the lists and details of tickets, handovers, requests
and users, the panels of the dashboard, and the dropdowns. A result has the columns of the rows that it is built
from, but for users: of these it never has the password hash.
-/

namespace AssetPilot

open Relational Txn Like

/-! ### What is shown of a user -/

/-- `UserSummary`, and `UserOption` of the dropdowns. -/
structure UserSummary where
  id : UUID
  name : String
  email : String
  role : UserRole
  managerId : Option UUID
  isActive : Bool
  deriving DecidableEq

/-- `_user_summary_from`, `_user_option_from`. -/
def userSummaryFrom (user : User) : UserSummary where
  id := user.id
  name := user.name
  email := user.email
  role := user.role
  managerId := user.managerId
  isActive := user.isActive

/-! ### The item -/

namespace InventoryService

structure RequestSummary where
  request : Request
  requesterName : Option String
  deriving DecidableEq

structure HandoverSummary where
  handover : HandoverRequest
  ownerName : Option String
  borrowerName : Option String
  deriving DecidableEq

structure ItemDetail where
  item : Item
  category : ItemCategory
  currentOwner : Option UserSummary
  currentRequest : Option RequestSummary
  openSupport : List SupportRequest
  activeHandover : Option HandoverSummary
  deriving DecidableEq

/-- `if item.current_owner_id is not None: …`. -/
def ownerOf : Option UUID → Service (Option User)
  | some ownerId => UserRepository.getById ownerId
  | none => pure none

/-- The requester is the owner, if that is who the owner is, and else looked up. -/
def requesterOf (owner : Option User) (request : Request) : Service (Option User) :=
  match owner with
  | some user =>
    if user.id = request.requesterId then pure (some user) else UserRepository.getById request.requesterId
  | none => UserRepository.getById request.requesterId

/-- `if current_request is not None: …`. -/
def requestSummaryOf (owner : Option User) : Option Request → Service (Option RequestSummary)
  | some request => do
    let requester ← requesterOf owner request
    return some ⟨request, requester.map User.name⟩
  | none => pure none

/-- `if active_handover is not None: …`. -/
def handoverSummaryOf : Option HandoverRequest → Service (Option HandoverSummary)
  | some handover => do
    let handoverOwner ← UserRepository.getById handover.ownerId
    let handoverBorrower ← UserRepository.getById handover.borrowerId
    return some ⟨handover, handoverOwner.map User.name, handoverBorrower.map User.name⟩
  | none => pure none

def getDetail (itemId : UUID) (order : OrderBy (Desc Request.createdAt)) : Service ItemDetail := do
  let item ← getItemOr404 itemId
  let category ← ItemCategoryRepository.getById item.categoryId
  let category ← orRaise category (notFoundException "Item category not found.")
  let owner ← ownerOf item.currentOwnerId
  let currentRequest ← RequestRepository.getActiveForItem item.id order
  let openSupport ← SupportRequestRepository.listOpenForItem item.id
  let activeHandover ← HandoverRequestRepository.getAcceptedForItem item.id
  let requestSummary ← requestSummaryOf owner currentRequest
  let handoverSummary ← handoverSummaryOf activeHandover
  return ⟨item, category, owner.map userSummaryFrom, requestSummary, openSupport, handoverSummary⟩

end InventoryService

/-! ### Tickets, handovers, requests -/

namespace SupportService

open SupportRequestRepository (SupportListRow filedOrder)

/-- `SupportRequesterSummary`. -/
structure SupportRequesterSummary extends UserSummary where
  createdAt : Datetime
  updatedAt : Datetime
  deriving DecidableEq

structure SupportDetailResult where
  supportRequest : SupportRequest
  item : Item
  requester : SupportRequesterSummary
  deriving DecidableEq

def detailResultFrom (row : SupportRequestRepository.SupportDetailRow) : SupportDetailResult where
  supportRequest := row.supportRequest
  item := row.item
  requester := ⟨userSummaryFrom row.requester, row.requester.createdAt, row.requester.updatedAt⟩

def listSupportRequests (status : Option SupportStatus) (type : Option SupportType) (itemId : Option UUID)
    (order : OrderBy filedOrder) : Service (List SupportListRow) :=
  SupportRequestRepository.listFiltered status type itemId order

def getDetail (supportRequestId : UUID) : Service SupportDetailResult := do
  let row ← SupportRequestRepository.getDetail supportRequestId
  let row ← orRaise row (notFoundException "Support request not found.")
  return detailResultFrom row

end SupportService

namespace HandoverService

def list (status : Option HandoverStatus) (itemId : Option UUID)
    (order : OrderBy HandoverRequestRepository.handoverOrder) :
    Service (List HandoverRequestRepository.HandoverListRow) :=
  HandoverRequestRepository.listFiltered status itemId order

end HandoverService

namespace RequestService

def getDetail (requestId : UUID) : Service RequestRepository.RequestDetailRow := do
  let row ← RequestRepository.getDetail requestId
  orRaise row (notFoundException "Request not found.")

end RequestService

namespace ExtensionService

structure ExtensionDetailResult where
  extensionRequest : ExtensionRequest
  request : Request
  item : Item
  requester : UserResult
  deriving DecidableEq

/-- `_detail_result_from`; its `ExtensionRequesterSummary` has the columns of `UserResult`. -/
def detailResultFrom (row : ExtensionRequestRepository.ExtensionDetailRow) : ExtensionDetailResult where
  extensionRequest := row.extensionRequest
  request := row.request
  item := row.item
  requester := UserService.userResultFrom row.requester

end ExtensionService

namespace UserService

/-- `UserListEntry`. -/
structure UserListEntry extends UserResult where
  managerName : Option String
  deriving DecidableEq

def userListEntryFrom (row : UserRepository.UserListRow) : UserListEntry := ⟨userResultFrom row.user, row.managerName⟩

def listUsers (collation : Collation) (role : Option UserRole) (isActive : Option Bool) (search : Option String)
    (pagination : PaginationParams)
    (order : OrderBy (Desc fun row : UserRepository.UserListRow => row.user.createdAt)) :
    Service (Page UserListEntry) := do
  let page ← UserRepository.listUsers collation role isActive search pagination order
  return ⟨page.items.map userListEntryFrom, page.totalItems, page.page, page.pageSize⟩

end UserService

namespace AssignmentService

def clientAvailable (collation : Collation) (categoryId : Option UUID) (search : Option String)
    (order : OrderBy (Asc fun row : ItemRepository.ClientAvailableRow => collation.sortKey row.item.name)) :
    Service (List ItemRepository.ClientAvailableRow) :=
  ItemRepository.listClientAvailable collation categoryId search order

end AssignmentService

/-! ### Panels and dropdowns -/

namespace DashboardService

def getRecentRequests (limit : Nat) (order : OrderBy RequestRepository.recentOrder) :
    Service (List RequestRepository.RequestListRow) :=
  RequestRepository.listRecent limit order

def getOpenSupport (limit : Nat) (order : OrderBy SupportRequestRepository.filedOrder) :
    Service (List SupportRequestRepository.SupportListRow) :=
  SupportRequestRepository.listOpen limit order

end DashboardService

namespace DropdownService

variable (collation : Collation)

def listItemCategories (order : OrderBy (Asc fun category : ItemCategory => collation.sortKey category.name)) :
    Service (List ItemCategory) :=
  ItemCategoryRepository.listActive collation order

def listManagers (order : OrderBy (Asc fun user : User => collation.sortKey user.name)) :
    Service (List UserSummary) := do
  let users ← UserRepository.listActiveByRole collation .manager order
  return users.map userSummaryFrom

def listEmployees (order : OrderBy (Asc fun user : User => collation.sortKey user.name)) :
    Service (List UserSummary) := do
  let users ← UserRepository.listActiveByRole collation .employee order
  return users.map userSummaryFrom

end DropdownService

/-! ### What they answer -/

variable {ctx : Ctx} {db db' : Db}

namespace InventoryService

@[simp] theorem runs_ownerOf {ownerId : Option UUID} {o : Option User} :
    (ownerOf ownerId).Runs ctx db o db' ↔ o = ownerId.bind db.users.get? ∧ db' = db := by
  cases ownerId <;> simp [ownerOf, eq_comm, and_comm]

theorem runs_requesterOf {o : Option User} {request : Request} {ownerId : Option UUID} :
    (requesterOf (ownerId.bind db.users.get?) request).Runs ctx db o db' ↔
      o = db.users.get? request.requesterId ∧ db' = db := by
  cases howner : ownerId.bind db.users.get? with
  | none => simp [requesterOf]
  | some u =>
    simp only [requesterOf]
    split_ifs with hid
    · obtain ⟨k, -, hk⟩ := Option.bind_eq_some_iff.mp howner
      obtain rfl : u.id = k := Table.get?_key hk
      rw [← hid, hk]
      simp [eq_comm, and_comm]
    · simp

@[simp] theorem runs_requestSummaryOf {ownerId : Option UUID} {request : Option Request}
    {o : Option RequestSummary} :
    (requestSummaryOf (ownerId.bind db.users.get?) request).Runs ctx db o db' ↔
      o = request.map (fun r => ⟨r, (db.users.get? r.requesterId).map User.name⟩) ∧ db' = db := by
  cases request with
  | none => simp [requestSummaryOf, eq_comm, and_comm]
  | some r =>
    simp only [requestSummaryOf, runs_bind, runs_requesterOf, runs_pure]
    grind

@[simp] theorem runs_handoverSummaryOf {handover : Option HandoverRequest} {o : Option HandoverSummary} :
    (handoverSummaryOf handover).Runs ctx db o db' ↔
      o = handover.map (fun h => ⟨h, (db.users.get? h.ownerId).map User.name,
        (db.users.get? h.borrowerId).map User.name⟩) ∧ db' = db := by
  cases handover <;> simp [handoverSummaryOf, eq_comm, and_comm]

end InventoryService

end AssetPilot
