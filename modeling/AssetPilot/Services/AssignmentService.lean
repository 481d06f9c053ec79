import AssetPilot.Services.DeviceLogService

/-!
# The assignment engine

`app/services/assignment_service.py`: booking-range adjustment, assignment of a queued request, and
direct assignment of client-owned devices. The result dataclasses have the columns of the row they are
built from, so each operation returns its row. `runs_f` inverts the operation `f`: the rows it found, the
guards it passed, and the database it left.
-/

namespace AssetPilot

open Txn
open SQLAlchemyRepository (flushed born)
open DeviceLogService (AppendArgs append)

namespace AssignmentService

def getRequestOr404 (requestId : UUID) : Service Request := do
  let request ← RequestRepository.getById requestId
  orRaise request (notFoundException "Request not found.")

def getItemOr404 (itemId : UUID) : Service Item := do
  let item ← ItemRepository.getById itemId
  orRaise item (notFoundException "Item not found.")

def suggestedDevices (requestId : UUID) : Service (List ItemRepository.SuggestedDeviceRow) := do
  let request ← getRequestOr404 requestId
  ItemRepository.listSuggestedDevices request.categoryId request.requestedFrom request.requestedTo

def itemBookings (itemId : UUID) : Service (List BookingRow) := do
  let _ ← getItemOr404 itemId
  RequestRepository.listBookingsForItem itemId

def updateBookingRange (requestId : UUID) (assignedFrom assignedTo : Datetime) : Service Request := do
  let request ← getRequestOr404 requestId
  raiseIf (request.status ≠ .assigned)
    (conflictException "Only assigned requests have a booking range to adjust.")
  let assignedItemId ← orRaise request.assignedItemId .assertionError
  let overlapping ← RequestRepository.hasOverlappingAssignedBooking assignedItemId assignedFrom assignedTo
    (some request.id)
  raiseIf overlapping
    (conflictException "The new range overlaps another active booking for this device.")
  RequestRepository.update
    { request with assignedFrom := some assignedFrom, assignedTo := some assignedTo }

/-- What `assign` sets on the request. -/
def assignedRequest (request : Request) (itemId : UUID) (assignedFrom assignedTo : Datetime)
    (isWfh : Bool) (actorId : UUID) (now : Datetime) : Request :=
  { request with
    assignedItemId := some itemId
    assignedFrom := some assignedFrom
    assignedTo := some assignedTo
    isWfh := isWfh
    itDecidedBy := some actorId
    itDecidedAt := some now
    status := .assigned }

/-- What `assign` and `direct_assign` set on the item. -/
def handedItem (item : Item) (ownerId : UUID) : Item :=
  { item with status := .assigned, currentOwnerId := some ownerId }

/-- The log entry of both operations. -/
def handedLog (event : DeviceLogEvent) (itemId requestId actorId : UUID) : AppendArgs where
  itemId := itemId
  eventType := event
  actorId := some actorId
  actorRole := .itAdmin
  requestId := some requestId
  fromValue := some DeviceStatus.available.value
  toValue := some DeviceStatus.assigned.value

def assign (requestId itemId : UUID) (assignedFrom assignedTo : Datetime) (isWfh : Bool)
    (actorId : UUID) : Service Request := do
  let request ← getRequestOr404 requestId
  raiseIf (request.status ≠ .pendingItApproval)
    (conflictException "Only requests pending IT approval can be assigned.")
  let item ← getItemOr404 itemId
  raiseIf (item.status ≠ .available) (conflictException "Only available devices can be assigned.")
  raiseIf (item.categoryId ≠ request.categoryId)
    (validationException "The device category does not match the request's category.")
  let overlapping ← RequestRepository.hasOverlappingAssignedBooking itemId assignedFrom assignedTo
    (some request.id)
  raiseIf overlapping
    (conflictException "The chosen dates overlap another active booking for this device.")
  let now ← utcNow 0
  let request := assignedRequest request itemId assignedFrom assignedTo isWfh actorId now
  let item := handedItem item request.requesterId
  let updatedRequest ← mapFailure
    (integrityErrorAsConflict "This device was just assigned to another active request.") do
      let updatedRequest ← RequestRepository.update request
      let _ ← ItemRepository.update item
      return updatedRequest
  let _ ← append (handedLog .assigned item.id updatedRequest.id actorId)
  return updatedRequest

/-- The request that `direct_assign` creates. -/
def directRequest (id itemId categoryId employeeId : UUID) (assignedFrom assignedTo : Datetime)
    (actorId : UUID) (now : Datetime) : Request where
  id := id
  requesterId := employeeId
  categoryId := categoryId
  assignedItemId := some itemId
  requestedFrom := assignedFrom
  requestedTo := assignedTo
  assignedFrom := some assignedFrom
  assignedTo := some assignedTo
  status := .assigned
  isClientDirect := true
  itDecidedBy := some actorId
  itDecidedAt := some now

def directAssign (itemId employeeId : UUID) (assignedFrom assignedTo : Datetime) (actorId : UUID) :
    Service Request := do
  let item ← getItemOr404 itemId
  raiseIf (item.ownerType ≠ .client)
    (validationException "Direct-assign is only valid for client-owned devices.")
  raiseIf (item.status ≠ .available)
    (conflictException "Only available devices can be directly assigned.")
  let overlapping ← RequestRepository.hasOverlappingAssignedBooking itemId assignedFrom assignedTo none
  raiseIf overlapping
    (conflictException "The chosen dates overlap another active booking for this device.")
  let employee ← UserRepository.getById employeeId
  let employee ← orRaise employee (notFoundException "Employee not found.")
  raiseIf (¬ employee.isActive)
    (conflictException "Only active employees can be assigned devices.")
  let now ← utcNow 0
  let id ← uuid4 0
  let request := directRequest id itemId item.categoryId employeeId assignedFrom assignedTo actorId now
  let item := handedItem item employeeId
  let createdRequest ← mapFailure
    (integrityErrorAsConflict "This device was just assigned to another active request.") do
      let createdRequest ← RequestRepository.create request
      let _ ← ItemRepository.update item
      return createdRequest
  let _ ← append (handedLog .clientAssigned item.id createdRequest.id actorId)
  return createdRequest

/-! ### Inversion -/

variable {ctx : Ctx} {db db' : Db}

@[simp] theorem runs_getRequestOr404 {id : UUID} {r : Request} :
    (getRequestOr404 id).Runs ctx db r db' ↔ db.requests.get? id = some r ∧ db' = db := by
  simp [getRequestOr404, and_comm, eq_comm]

@[simp] theorem fails_getRequestOr404 {id : UUID} {e : Failure} :
    (getRequestOr404 id).Fails ctx db e ↔
      db.requests.get? id = none ∧ e = notFoundException "Request not found." := by
  simp [getRequestOr404]

@[simp] theorem runs_getItemOr404 {id : UUID} {i : Item} :
    (getItemOr404 id).Runs ctx db i db' ↔ db.items.get? id = some i ∧ db' = db := by
  simp [getItemOr404, and_comm, eq_comm]

theorem runs_updateBookingRange {requestId : UUID} {f t : Datetime} {row : Request} :
    (updateBookingRange requestId f t).Runs ctx db row db' ↔
      ∃ request itemId, db.requests.get? requestId = some request ∧ request.status = .assigned ∧
        request.assignedItemId = some itemId ∧
        (∀ x ∈ db.requests.rows, x.Overlaps itemId f t → request.id = x.id) ∧
        Model.constraints db row = .ok () ∧
        row = flushed ctx db { request with assignedFrom := some f, assignedTo := some t } ∧
        db' = db.setRequest row := by
  simp [updateBookingRange]

@[simp] theorem assignedRequest_requesterId {r : Request} {itemId actorId : UUID} {f t now : Datetime}
    {wfh : Bool} : (assignedRequest r itemId f t wfh actorId now).requesterId = r.requesterId := rfl

@[simp] theorem handedItem_id {i : Item} {ownerId : UUID} : (handedItem i ownerId).id = i.id := rfl

theorem runs_assign {requestId itemId actorId : UUID} {f t : Datetime} {wfh : Bool} {row : Request} :
    (assign requestId itemId f t wfh actorId).Runs ctx db row db' ↔
      ∃ request, db.requests.get? requestId = some request ∧ request.status = .pendingItApproval ∧
        ∃ item, db.items.get? itemId = some item ∧ item.status = .available ∧
        item.categoryId = request.categoryId ∧
        (∀ x ∈ db.requests.rows, x.Overlaps itemId f t → request.id = x.id) ∧
        ∃ request', request' =
            flushed ctx db (assignedRequest request itemId f t wfh actorId (ctx.clock 0)) ∧
          Model.constraints db request' = .ok () ∧
        ∃ item', item' = flushed ctx (db.setRequest request') (handedItem item request.requesterId) ∧
          Model.constraints (db.setRequest request') item' = .ok () ∧
        ((db.setRequest request').setItem item').DeviceLogIntegral
          (handedLog .assigned item.id request'.id actorId).row ∧
        row = request' ∧
        db' = ((db.setRequest request').setItem item').appendLog
          ((handedLog .assigned item.id request'.id actorId).written ctx) := by
  simp [assign, and_assoc]

@[simp] theorem directRequest_id {id itemId categoryId employeeId actorId : UUID}
    {f t now : Datetime} : (directRequest id itemId categoryId employeeId f t actorId now).id = id := rfl

theorem runs_directAssign {itemId employeeId actorId : UUID} {f t : Datetime} {row : Request} :
    (directAssign itemId employeeId f t actorId).Runs ctx db row db' ↔
      ∃ item, db.items.get? itemId = some item ∧ item.ownerType = .client ∧ item.status = .available ∧
        (∀ x ∈ db.requests.rows, ¬ x.Overlaps itemId f t) ∧
        ∃ employee, db.users.get? employeeId = some employee ∧ employee.isActive = true ∧
        ∃ request', request' = born ctx
            (directRequest (ctx.uuid4 0) itemId item.categoryId employeeId f t actorId (ctx.clock 0)) ∧
          db.requests.get? (ctx.uuid4 0) = none ∧ Model.constraints db request' = .ok () ∧
        ∃ item', item' = flushed ctx (db.addRequest request') (handedItem item employeeId) ∧
          Model.constraints (db.addRequest request') item' = .ok () ∧
        ((db.addRequest request').setItem item').DeviceLogIntegral
          (handedLog .clientAssigned item.id request'.id actorId).row ∧
        row = request' ∧
        db' = ((db.addRequest request').setItem item').appendLog
          ((handedLog .clientAssigned item.id request'.id actorId).written ctx) := by
  simp [directAssign, and_assoc]

end AssignmentService

end AssetPilot
