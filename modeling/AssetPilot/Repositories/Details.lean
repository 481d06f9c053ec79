import AssetPilot.Repositories.Listings

/-!
# The detail and panel queries

The rest of the reading side: the joined list and detail queries of tickets and handovers, the detail of a
request, what the composite view of an item looks up, the panels that the dashboard cuts at a limit, and the
options of the dropdowns.
-/

namespace AssetPilot

open Relational Txn Like

variable {ctx : Ctx} {db db' : Db} {e : Failure} {collation : Collation}

/-! ### `support_request` -/

namespace SupportRequestRepository

structure SupportListRow where
  supportRequest : SupportRequest
  itemName : String
  requesterName : String
  deriving DecidableEq

structure SupportDetailRow where
  supportRequest : SupportRequest
  item : Item
  requester : User
  deriving DecidableEq

/-- The joins of `list_open` and `list_filtered`, with what they filter on. -/
def supportQuery (filter : SupportRequest → Prop) [DecidablePred filter] (db : Db) :
    Query SupportRequest SupportListRow where
  select t := do
    let item ← db.items.get? t.itemId
    let requester ← db.users.get? t.requesterId
    if filter t then some ⟨t, item.name, requester.name⟩ else none
  main := SupportListRow.supportRequest
  main_of_select h := by
    simp only [Option.bind_eq_bind, Option.bind_eq_some_iff, Option.ite_none_right_eq_some] at h
    obtain ⟨_, -, _, -, -, hrow⟩ := h
    cases hrow
    rfl

/-- `ORDER BY filed_at ASC`. -/
abbrev filedOrder : SupportListRow → SupportListRow → Prop := Asc fun row => row.supportRequest.filedAt

def listOpen (limit : Nat) (order : OrderBy filedOrder) : Service (List SupportListRow) := do
  let db ← get
  return (order.sort ((supportQuery (fun t => t.status ∈ _OPEN_STATUSES) db).rows db.supportRequests)).take limit

def listFiltered (status : Option SupportStatus) (type : Option SupportType) (itemId : Option UUID)
    (order : OrderBy filedOrder) : Service (List SupportListRow) := do
  let db ← get
  return order.sort ((supportQuery (fun t => Selects status t.status ∧ Selects type t.type ∧
    Selects itemId t.itemId) db).rows db.supportRequests)

/-- The statement of `get_detail`. -/
def supportDetailQuery (supportRequestId : UUID) (db : Db) : Query SupportRequest SupportDetailRow where
  select t := do
    let item ← db.items.get? t.itemId
    let requester ← db.users.get? t.requesterId
    if t.id = supportRequestId then some ⟨t, item, requester⟩ else none
  main := SupportDetailRow.supportRequest
  main_of_select h := by
    simp only [Option.bind_eq_bind, Option.bind_eq_some_iff, Option.ite_none_right_eq_some] at h
    grind

/-- `result.first()`. -/
def getDetail (supportRequestId : UUID) : Service (Option SupportDetailRow) := do
  let db ← get
  return ((supportDetailQuery supportRequestId db).rows db.supportRequests).head?

@[simp] theorem runs_listOpen {limit : Nat} {order : OrderBy filedOrder} {rows : List SupportListRow} :
    (listOpen limit order).Runs ctx db rows db' ↔
      rows = (order.sort ((supportQuery (fun t => t.status ∈ _OPEN_STATUSES) db).rows
        db.supportRequests)).take limit ∧ db' = db := by
  simp [listOpen, and_comm]

@[simp] theorem runs_listFiltered {status : Option SupportStatus} {type : Option SupportType}
    {itemId : Option UUID} {order : OrderBy filedOrder} {rows : List SupportListRow} :
    (listFiltered status type itemId order).Runs ctx db rows db' ↔
      rows = order.sort ((supportQuery (fun t => Selects status t.status ∧ Selects type t.type ∧
        Selects itemId t.itemId) db).rows db.supportRequests) ∧ db' = db := by
  simp [listFiltered, and_comm]

@[simp] theorem runs_getDetail {supportRequestId : UUID} {row : Option SupportDetailRow} :
    (getDetail supportRequestId).Runs ctx db row db' ↔
      row = ((supportDetailQuery supportRequestId db).rows db.supportRequests).head? ∧ db' = db := by
  simp [getDetail, and_comm]

end SupportRequestRepository

/-! ### `handover_request` -/

/-- `MultipleResultsFound` of `scalar_one_or_none`: no handler knows it. -/
def multipleResultsFound : Failure := .assertionError

namespace HandoverRequestRepository

structure HandoverListRow where
  handoverRequest : HandoverRequest
  itemName : String
  ownerName : String
  borrowerName : String
  deriving DecidableEq

/-- `result.scalar_one_or_none()`. -/
def getAcceptedForItem (itemId : UUID) : Service (Option HandoverRequest) := do
  let db ← get
  let rows := db.handoverRequests.rows.filter fun h => h.itemId = itemId ∧ h.status = .accepted
  raiseIf (1 < rows.length) multipleResultsFound
  return rows.head?

/-- The statement of `list_filtered`. -/
def handoverQuery (status : Option HandoverStatus) (itemId : Option UUID) (db : Db) :
    Query HandoverRequest HandoverListRow where
  select h := do
    let item ← db.items.get? h.itemId
    let owner ← db.users.get? h.ownerId
    let borrower ← db.users.get? h.borrowerId
    if Selects status h.status ∧ Selects itemId h.itemId then
      some ⟨h, item.name, owner.name, borrower.name⟩
    else none
  main := HandoverListRow.handoverRequest
  main_of_select h := by
    simp only [Option.bind_eq_bind, Option.bind_eq_some_iff, Option.ite_none_right_eq_some] at h
    grind

/-- `ORDER BY requested_at ASC`. -/
abbrev handoverOrder : HandoverListRow → HandoverListRow → Prop := Asc fun row => row.handoverRequest.requestedAt

def listFiltered (status : Option HandoverStatus) (itemId : Option UUID) (order : OrderBy handoverOrder) :
    Service (List HandoverListRow) := do
  let db ← get
  return order.sort ((handoverQuery status itemId db).rows db.handoverRequests)

/-- The accepted handovers of the item. -/
def accepted (db : Db) (itemId : UUID) : List HandoverRequest :=
  db.handoverRequests.rows.filter fun h => h.itemId = itemId ∧ h.status = .accepted

@[simp] theorem runs_getAcceptedForItem {itemId : UUID} {o : Option HandoverRequest} :
    (getAcceptedForItem itemId).Runs ctx db o db' ↔
      (accepted db itemId).length ≤ 1 ∧ o = (accepted db itemId).head? ∧ db' = db := by
  simp only [getAcceptedForItem, accepted, runs_bind, runs_get, runs_raiseIf, runs_pure]
  grind

@[simp] theorem runs_listFiltered {status : Option HandoverStatus} {itemId : Option UUID}
    {order : OrderBy handoverOrder} {rows : List HandoverListRow} :
    (listFiltered status itemId order).Runs ctx db rows db' ↔
      rows = order.sort ((handoverQuery status itemId db).rows db.handoverRequests) ∧ db' = db := by
  simp [listFiltered, and_comm]

end HandoverRequestRepository

/-! ### `request` -/

namespace RequestRepository

structure RequestDetailRow where
  request : Request
  categoryName : String
  requesterName : String
  managerName : Option String
  itDecidedByName : Option String
  cancelledByName : Option String
  completedByName : Option String
  item : Option Item
  deriving DecidableEq

/-- `LIMIT 1` of the bookings, the latest first. -/
def getActiveForItem (itemId : UUID) (order : OrderBy (Desc Request.createdAt)) : Service (Option Request) := do
  let db ← get
  return (order.sort (db.requests.rows.filter fun r => r.IsBookingFor itemId)).head?

/-- The statement of `list_recent`. -/
def recentQuery (db : Db) : Query Request RequestListRow where
  select r := do
    let category ← db.categories.get? r.categoryId
    let requester ← db.users.get? r.requesterId
    return ⟨r, category.name, requester.name⟩
  main := RequestListRow.request
  main_of_select h := by
    simp only [Option.bind_eq_bind, Option.bind_eq_some_iff, Option.pure_def, Option.some.injEq] at h
    grind

/-- `ORDER BY created_at DESC`. -/
abbrev recentOrder : RequestListRow → RequestListRow → Prop := Desc fun row => row.request.createdAt

def listRecent (limit : Nat) (order : OrderBy recentOrder) : Service (List RequestListRow) := do
  let db ← get
  return (order.sort ((recentQuery db).rows db.requests)).take limit

/-- The statement of `get_detail`: the category and the requester are joined inner, the others outer. -/
def requestDetailQuery (requestId : UUID) (db : Db) : Query Request RequestDetailRow where
  select r := do
    let category ← db.categories.get? r.categoryId
    let requester ← db.users.get? r.requesterId
    let name (userId : Option UUID) : Option String := (userId.bind db.users.get?).map User.name
    if r.id = requestId then
      some ⟨r, category.name, requester.name, name r.managerId, name r.itDecidedBy, name r.cancelledBy,
        name r.completedBy, r.assignedItemId.bind db.items.get?⟩
    else none
  main := RequestDetailRow.request
  main_of_select h := by
    simp only [Option.bind_eq_bind, Option.bind_eq_some_iff, Option.ite_none_right_eq_some] at h
    grind

/-- `result.first()`. -/
def getDetail (requestId : UUID) : Service (Option RequestDetailRow) := do
  let db ← get
  return ((requestDetailQuery requestId db).rows db.requests).head?

@[simp] theorem runs_getActiveForItem {itemId : UUID} {order : OrderBy (Desc Request.createdAt)}
    {o : Option Request} : (getActiveForItem itemId order).Runs ctx db o db' ↔
      o = (order.sort (db.requests.rows.filter fun r => r.IsBookingFor itemId)).head? ∧ db' = db := by
  simp [getActiveForItem, and_comm]

@[simp] theorem runs_listRecent {limit : Nat} {order : OrderBy recentOrder} {rows : List RequestListRow} :
    (listRecent limit order).Runs ctx db rows db' ↔
      rows = (order.sort ((recentQuery db).rows db.requests)).take limit ∧ db' = db := by
  simp [listRecent, and_comm]

@[simp] theorem runs_getDetail {requestId : UUID} {row : Option RequestDetailRow} :
    (getDetail requestId).Runs ctx db row db' ↔
      row = ((requestDetailQuery requestId db).rows db.requests).head? ∧ db' = db := by
  simp [getDetail, and_comm]

end RequestRepository

/-! ### The dropdowns -/

namespace ItemCategoryRepository

def listActive (collation : Collation)
    (order : OrderBy (Asc fun category : ItemCategory => collation.sortKey category.name)) :
    Service (List ItemCategory) := do
  let db ← get
  return order.sort (db.categories.rows.filter ItemCategory.isActive)

@[simp] theorem runs_listActive
    {order : OrderBy (Asc fun category : ItemCategory => collation.sortKey category.name)}
    {rows : List ItemCategory} : (listActive collation order).Runs ctx db rows db' ↔
      rows = order.sort (db.categories.rows.filter ItemCategory.isActive) ∧ db' = db := by
  simp [listActive, and_comm]

end ItemCategoryRepository

namespace UserRepository

def listActiveByRole (collation : Collation) (role : UserRole)
    (order : OrderBy (Asc fun user : User => collation.sortKey user.name)) : Service (List User) := do
  let db ← get
  return order.sort (db.users.rows.filter fun u => u.role = role ∧ u.isActive = true)

@[simp] theorem runs_listActiveByRole {role : UserRole}
    {order : OrderBy (Asc fun user : User => collation.sortKey user.name)} {rows : List User} :
    (listActiveByRole collation role order).Runs ctx db rows db' ↔
      rows = order.sort (db.users.rows.filter fun u => u.role = role ∧ u.isActive = true) ∧ db' = db := by
  simp [listActiveByRole, and_comm]

end UserRepository

end AssetPilot
