import AssetPilot.Lib.Like
import AssetPilot.Lib.Query
import AssetPilot.Repositories.Tables
import AssetPilot.Utils.Pagination
import Mathlib.Data.String.Basic

/-!
# The list queries

The queries behind the list endpoints, each as the rows that its joins and filters select and the answer to its
`ORDER BY`. An inner join drops the rows that refer to nothing. What `ILIKE` compares, and how texts are sorted,
is up to the collation of the database.
-/

namespace AssetPilot

open Relational Txn Like

variable {ctx : Ctx} {db db' : Db} {collation : Collation}

/-- `if value is not None: stmt.where(column == value)`. -/
def Selects {α : Type} (value : Option α) (column : α) : Prop := ∀ v ∈ value, column = v

instance {α : Type} [DecidableEq α] (value : Option α) (column : α) : Decidable (Selects value column) :=
  inferInstanceAs (Decidable (∀ v ∈ _, _))

/-- `if search: stmt.where(or_(column.ilike(f"%{search}%"), …))`. -/
def Searched (collation : Collation) (search : Option String) (columns : List String) : Prop :=
  ∀ s ∈ search, s ≠ "" → ∃ column ∈ columns, collation.ilike column ("%" ++ s ++ "%") = some true

instance (search : Option String) (columns : List String) : Decidable (Searched collation search columns) :=
  inferInstanceAs (Decidable (∀ s ∈ _, _))

/-! ### `item` -/

namespace ItemRepository

structure ItemListRow where
  item : Item
  categoryName : String
  currentOwnerName : Option String
  deriving DecidableEq

structure ClientAvailableRow where
  item : Item
  categoryName : String
  deriving DecidableEq

/-- The `base_stmt` of `list_items`. -/
def itemQuery (collation : Collation) (categoryId : Option UUID) (status : Option DeviceStatus)
    (ownerType : Option OwnerType) (search : Option String) (db : Db) : Query Item ItemListRow where
  select i := do
    let category ← db.categories.get? i.categoryId
    let owner := i.currentOwnerId.bind db.users.get?
    if Selects categoryId i.categoryId ∧ Selects status i.status ∧ Selects ownerType i.ownerType ∧
        Searched collation search [i.name, i.serialNo] then
      some ⟨i, category.name, owner.map User.name⟩
    else none
  main := ItemListRow.item
  main_of_select h := by
    simp only [Option.bind_eq_bind, Option.bind_eq_some_iff, Option.ite_none_right_eq_some] at h
    grind

def listItems (collation : Collation) (categoryId : Option UUID) (status : Option DeviceStatus)
    (ownerType : Option OwnerType) (search : Option String) (pagination : PaginationParams)
    (order : OrderBy (Desc fun row : ItemListRow => row.item.createdAt)) : Service (Page ItemListRow) := do
  let db ← get
  return paginate order pagination ((itemQuery collation categoryId status ownerType search db).rows db.items)

/-- The statement of `list_client_available`. -/
def clientAvailableQuery (collation : Collation) (categoryId : Option UUID) (search : Option String) (db : Db) :
    Query Item ClientAvailableRow where
  select i := do
    let category ← db.categories.get? i.categoryId
    if (i.ownerType = .client ∧ i.status = .available) ∧ Selects categoryId i.categoryId ∧
        Searched collation search [i.name, i.serialNo] then
      some ⟨i, category.name⟩
    else none
  main := ClientAvailableRow.item
  main_of_select h := by
    simp only [Option.bind_eq_bind, Option.bind_eq_some_iff, Option.ite_none_right_eq_some] at h
    grind

def listClientAvailable (collation : Collation) (categoryId : Option UUID) (search : Option String)
    (order : OrderBy (Asc fun row : ClientAvailableRow => collation.sortKey row.item.name)) :
    Service (List ClientAvailableRow) := do
  let db ← get
  return order.sort ((clientAvailableQuery collation categoryId search db).rows db.items)

variable {categoryId : Option UUID} {status : Option DeviceStatus} {ownerType : Option OwnerType}
  {search : Option String}

@[simp] theorem runs_listItems {pagination : PaginationParams}
    {order : OrderBy (Desc fun row : ItemListRow => row.item.createdAt)} {page : Page ItemListRow} :
    (listItems collation categoryId status ownerType search pagination order).Runs ctx db page db' ↔
      page = paginate order pagination
        ((itemQuery collation categoryId status ownerType search db).rows db.items) ∧ db' = db := by
  simp [listItems, and_comm]

@[simp] theorem runs_listClientAvailable
    {order : OrderBy (Asc fun row : ClientAvailableRow => collation.sortKey row.item.name)}
    {rows : List ClientAvailableRow} :
    (listClientAvailable collation categoryId search order).Runs ctx db rows db' ↔
      rows = order.sort ((clientAvailableQuery collation categoryId search db).rows db.items) ∧ db' = db := by
  simp [listClientAvailable, and_comm]

end ItemRepository

/-! ### `request` -/

/-- The order in which the values of the enumerated type `request_priority` are declared. -/
def RequestPriority.rank : RequestPriority → Nat
  | .low => 0
  | .medium => 1
  | .high => 2

namespace RequestRepository

structure RequestListRow where
  request : Request
  categoryName : String
  requesterName : String
  deriving DecidableEq

structure ShippingQueueRow where
  request : Request
  itemName : String
  requesterName : String
  deriving DecidableEq

/-- The `base_stmt` of `list_requests`. -/
def requestQuery (collation : Collation) (status : Option RequestStatus) (categoryId : Option UUID)
    (priority : Option RequestPriority) (requestedFrom requestedTo : Option Datetime) (search : Option String)
    (db : Db) : Query Request RequestListRow where
  select r := do
    let category ← db.categories.get? r.categoryId
    let requester ← db.users.get? r.requesterId
    if Selects status r.status ∧ Selects categoryId r.categoryId ∧ Selects priority r.priority ∧
        (∀ f ∈ requestedFrom, r.requestedFrom ≥ f) ∧ (∀ t ∈ requestedTo, r.requestedTo ≤ t) ∧
        Searched collation search [requester.name, requester.email] then
      some ⟨r, category.name, requester.name⟩
    else none
  main := RequestListRow.request
  main_of_select h := by
    simp only [Option.bind_eq_bind, Option.bind_eq_some_iff, Option.ite_none_right_eq_some] at h
    grind

def listRequests (collation : Collation) (status : Option RequestStatus) (categoryId : Option UUID)
    (priority : Option RequestPriority) (requestedFrom requestedTo : Option Datetime) (search : Option String)
    (pagination : PaginationParams)
    (order : OrderBy (Desc fun row : RequestListRow => row.request.createdAt)) : Service (Page RequestListRow) := do
  let db ← get
  return paginate order pagination
    ((requestQuery collation status categoryId priority requestedFrom requestedTo search db).rows db.requests)

/-- The `base_stmt` of `list_it_approvals`. -/
def itApprovalQuery (db : Db) : Query Request RequestListRow where
  select r := do
    let category ← db.categories.get? r.categoryId
    let requester ← db.users.get? r.requesterId
    if r.status = .pendingItApproval then some ⟨r, category.name, requester.name⟩ else none
  main := RequestListRow.request
  main_of_select h := by
    simp only [Option.bind_eq_bind, Option.bind_eq_some_iff, Option.ite_none_right_eq_some] at h
    grind

/-- `ORDER BY priority DESC, created_at ASC`. -/
abbrev approvalOrder : RequestListRow → RequestListRow → Prop :=
  Then (Desc fun row => row.request.priority.rank) (Asc fun row => row.request.createdAt)

def listItApprovals (pagination : PaginationParams) (order : OrderBy approvalOrder) :
    Service (Page RequestListRow) := do
  let db ← get
  return paginate order pagination ((itApprovalQuery db).rows db.requests)

/-- The statement of `list_outbound_shipping_queue`. -/
def outboundQuery (db : Db) : Query Request ShippingQueueRow where
  select r := do
    let item ← r.assignedItemId.bind db.items.get?
    let requester ← db.users.get? r.requesterId
    if r.isWfh = true ∧ r.status = .assigned ∧ r.shipInitiatedAt = none then
      some ⟨r, item.name, requester.name⟩
    else none
  main := ShippingQueueRow.request
  main_of_select h := by
    simp only [Option.bind_eq_bind, Option.bind_eq_some_iff, Option.ite_none_right_eq_some] at h
    grind

/-- The statement of `list_return_shipping_queue`. -/
def returnQuery (db : Db) : Query Request ShippingQueueRow where
  select r := do
    let item ← r.assignedItemId.bind db.items.get?
    let requester ← db.users.get? r.requesterId
    if item.status = .returnShippingPending then some ⟨r, item.name, requester.name⟩ else none
  main := ShippingQueueRow.request
  main_of_select h := by
    simp only [Option.bind_eq_bind, Option.bind_eq_some_iff, Option.ite_none_right_eq_some] at h
    grind

/-- `ORDER BY created_at ASC`. -/
abbrev queueOrder : ShippingQueueRow → ShippingQueueRow → Prop := Asc fun row => row.request.createdAt

def listOutboundShippingQueue (order : OrderBy queueOrder) : Service (List ShippingQueueRow) := do
  let db ← get
  return order.sort ((outboundQuery db).rows db.requests)

def listReturnShippingQueue (order : OrderBy queueOrder) : Service (List ShippingQueueRow) := do
  let db ← get
  return order.sort ((returnQuery db).rows db.requests)

variable {status : Option RequestStatus} {categoryId : Option UUID} {priority : Option RequestPriority}
  {requestedFrom requestedTo : Option Datetime} {search : Option String} {pagination : PaginationParams}

@[simp] theorem runs_listRequests {order : OrderBy (Desc fun row : RequestListRow => row.request.createdAt)}
    {page : Page RequestListRow} :
    (listRequests collation status categoryId priority requestedFrom requestedTo search pagination order).Runs
        ctx db page db' ↔
      page = paginate order pagination ((requestQuery collation status categoryId priority requestedFrom
        requestedTo search db).rows db.requests) ∧ db' = db := by
  simp [listRequests, and_comm]

@[simp] theorem runs_listItApprovals {order : OrderBy approvalOrder} {page : Page RequestListRow} :
    (listItApprovals pagination order).Runs ctx db page db' ↔
      page = paginate order pagination ((itApprovalQuery db).rows db.requests) ∧ db' = db := by
  simp [listItApprovals, and_comm]

@[simp] theorem runs_listOutboundShippingQueue {order : OrderBy queueOrder} {rows : List ShippingQueueRow} :
    (listOutboundShippingQueue order).Runs ctx db rows db' ↔
      rows = order.sort ((outboundQuery db).rows db.requests) ∧ db' = db := by
  simp [listOutboundShippingQueue, and_comm]

@[simp] theorem runs_listReturnShippingQueue {order : OrderBy queueOrder} {rows : List ShippingQueueRow} :
    (listReturnShippingQueue order).Runs ctx db rows db' ↔
      rows = order.sort ((returnQuery db).rows db.requests) ∧ db' = db := by
  simp [listReturnShippingQueue, and_comm]

end RequestRepository

/-! ### `user` -/

namespace UserRepository

structure UserListRow where
  user : User
  managerName : Option String
  deriving DecidableEq

/-- The `base_stmt` of `list_users`. -/
def userQuery (collation : Collation) (role : Option UserRole) (isActive : Option Bool) (search : Option String)
    (db : Db) : Query User UserListRow where
  select u :=
    let manager := u.managerId.bind db.users.get?
    if Selects role u.role ∧ Selects isActive u.isActive ∧ Searched collation search [u.name, u.email] then
      some ⟨u, manager.map User.name⟩
    else none
  main := UserListRow.user
  main_of_select h := by
    rw [Option.ite_none_right_eq_some] at h
    grind

def listUsers (collation : Collation) (role : Option UserRole) (isActive : Option Bool) (search : Option String)
    (pagination : PaginationParams) (order : OrderBy (Desc fun row : UserListRow => row.user.createdAt)) :
    Service (Page UserListRow) := do
  let db ← get
  return paginate order pagination ((userQuery collation role isActive search db).rows db.users)

@[simp] theorem runs_listUsers {role : Option UserRole} {isActive : Option Bool} {search : Option String}
    {pagination : PaginationParams} {order : OrderBy (Desc fun row : UserListRow => row.user.createdAt)}
    {page : Page UserListRow} : (listUsers collation role isActive search pagination order).Runs ctx db page db' ↔
      page = paginate order pagination ((userQuery collation role isActive search db).rows db.users) ∧
        db' = db := by
  simp [listUsers, and_comm]

end UserRepository

/-! ### `extension_request` -/

namespace ExtensionRequestRepository

structure ExtensionListRow where
  extensionRequest : ExtensionRequest
  itemName : String
  requesterName : String
  deriving DecidableEq

structure ExtensionDetailRow where
  extensionRequest : ExtensionRequest
  request : Request
  item : Item
  requester : User
  deriving DecidableEq

/-- The statement of `list_filtered`. -/
def extensionQuery (status : Option ExtensionStatus) (db : Db) : Query ExtensionRequest ExtensionListRow where
  select x := do
    let request ← db.requests.get? x.originalRequestId
    let item ← request.assignedItemId.bind db.items.get?
    let requester ← db.users.get? x.requesterId
    if Selects status x.status then some ⟨x, item.name, requester.name⟩ else none
  main := ExtensionListRow.extensionRequest
  main_of_select h := by
    simp only [Option.bind_eq_bind, Option.bind_eq_some_iff, Option.ite_none_right_eq_some] at h
    grind

/-- `ORDER BY created_at ASC`. -/
abbrev extensionOrder : ExtensionListRow → ExtensionListRow → Prop := Asc fun row => row.extensionRequest.createdAt

def listFiltered (status : Option ExtensionStatus) (order : OrderBy extensionOrder) :
    Service (List ExtensionListRow) := do
  let db ← get
  return order.sort ((extensionQuery status db).rows db.extensionRequests)

/-- The statement of `get_detail`. -/
def extensionDetailQuery (extensionRequestId : UUID) (db : Db) : Query ExtensionRequest ExtensionDetailRow where
  select x := do
    let request ← db.requests.get? x.originalRequestId
    let item ← request.assignedItemId.bind db.items.get?
    let requester ← db.users.get? x.requesterId
    if x.id = extensionRequestId then some ⟨x, request, item, requester⟩ else none
  main := ExtensionDetailRow.extensionRequest
  main_of_select h := by
    simp only [Option.bind_eq_bind, Option.bind_eq_some_iff, Option.ite_none_right_eq_some] at h
    grind

/-- `result.first()`. -/
def getDetail (extensionRequestId : UUID) : Service (Option ExtensionDetailRow) := do
  let db ← get
  return ((extensionDetailQuery extensionRequestId db).rows db.extensionRequests).head?

@[simp] theorem runs_listFiltered {status : Option ExtensionStatus} {order : OrderBy extensionOrder}
    {rows : List ExtensionListRow} : (listFiltered status order).Runs ctx db rows db' ↔
      rows = order.sort ((extensionQuery status db).rows db.extensionRequests) ∧ db' = db := by
  simp [listFiltered, and_comm]

@[simp] theorem runs_getDetail {extensionRequestId : UUID} {row : Option ExtensionDetailRow} :
    (getDetail extensionRequestId).Runs ctx db row db' ↔
      row = ((extensionDetailQuery extensionRequestId db).rows db.extensionRequests).head? ∧ db' = db := by
  simp [getDetail, and_comm]

end ExtensionRequestRepository

/-! ### `device_log` -/

namespace DeviceLogRepository

/-- A row of the log, with its place in the order of insertion for its surrogate key. -/
structure DeviceLogRow where
  id : Nat
  deviceLog : DeviceLog
  actorName : Option String
  deriving DecidableEq

/-- The rows that `list_for_item` selects, in the order of insertion. -/
def rowsForItem (itemId : UUID) (milestonesOnly : Bool) (db : Db) : List DeviceLogRow :=
  db.deviceLog.zipIdx.filterMap fun (log, id) =>
    let actor := log.actorId.bind db.users.get?
    if log.itemId = itemId ∧ (milestonesOnly = true → log.isMilestone = true) then
      some ⟨id, log, actor.map User.name⟩
    else none

/-- `ORDER BY occurred_at ASC`. -/
abbrev timeOrder : DeviceLogRow → DeviceLogRow → Prop := Asc fun row => row.deviceLog.occurredAt

/-- `list_for_item` as `get_timeline` calls it, without pagination. -/
def listForItem (itemId : UUID) (milestonesOnly : Bool) (order : OrderBy timeOrder) :
    Service (List DeviceLogRow) := do
  let db ← get
  return order.sort (rowsForItem itemId milestonesOnly db)

@[simp] theorem runs_listForItem {itemId : UUID} {milestonesOnly : Bool} {order : OrderBy timeOrder}
    {rows : List DeviceLogRow} : (listForItem itemId milestonesOnly order).Runs ctx db rows db' ↔
      rows = order.sort (rowsForItem itemId milestonesOnly db) ∧ db' = db := by
  simp [listForItem, and_comm]

end DeviceLogRepository

end AssetPilot
