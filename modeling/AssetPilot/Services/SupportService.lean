import AssetPilot.Services.ShippingService

/-!
# The support queue

`app/services/support_service.py`: starting a ticket and resolving it with one of the four resolutions,
two of which repoint or complete the request the ticket is tied to.
-/

namespace AssetPilot

open Txn
open SQLAlchemyRepository (flushed)
open DeviceLogService (AppendArgs append)

namespace SupportService

def getTicketOr404 (supportRequestId : UUID) : Service SupportRequest := do
  let ticket ← SupportRequestRepository.getById supportRequestId
  orRaise ticket (notFoundException "Support request not found.")

def getItemOr404 (itemId : UUID) : Service Item := do
  let item ← ItemRepository.getById itemId
  orRaise item (notFoundException "Item not found.")

/-- The log entry of a status change that a ticket brings about. -/
def ticketLog (event : DeviceLogEvent) (itemId : UUID) (requestId : Option UUID)
    (ticketId actorId : UUID) (fromStatus toStatus : DeviceStatus) : AppendArgs where
  itemId := itemId
  eventType := event
  actorId := some actorId
  actorRole := .itAdmin
  requestId := requestId
  supportRequestId := some ticketId
  fromValue := some fromStatus.value
  toValue := some toStatus.value

/-- The second half of `start`: a damaged device goes to repair. -/
def startRepair (ticket : SupportRequest) (actorId : UUID) : Service Unit :=
  match ticket.type with
  | .damage => do
    let item ← getItemOr404 ticket.itemId
    let _ ← ItemRepository.update (item.setStatus .underRepair)
    let _ ← append (ticketLog .statusChanged item.id none ticket.id actorId item.status .underRepair)
  | _ => return ()

def start (supportRequestId actorId : UUID) : Service SupportRequest := do
  let ticket ← getTicketOr404 supportRequestId
  raiseIf (ticket.status ≠ .opened) (conflictException "Only open support requests can be started.")
  let updated ← SupportRequestRepository.update { ticket with status := .inProgress }
  startRepair updated actorId
  return updated

def repairInPlace (ticket : SupportRequest) (item : Item) (actorId : UUID) : Service Unit := do
  raiseIf (item.status ≠ .underRepair)
    (conflictException "Only a device currently under_repair can be resolved as repaired_in_place.")
  let _ ← ItemRepository.update (item.setStatus .assigned)
  let _ ← append (ticketLog .statusChanged item.id none ticket.id actorId .underRepair .assigned)

/-- The two log entries of a swap, which carry neither `from_value` nor `to_value`. -/
def swapLog (event : DeviceLogEvent) (itemId requestId ticketId actorId : UUID) (key : String)
    (otherItemId : UUID) : AppendArgs where
  itemId := itemId
  eventType := event
  actorId := some actorId
  actorRole := .itAdmin
  requestId := some requestId
  supportRequestId := some ticketId
  metadata := some [(key, .text otherItemId.str)]
  isMilestone := some true

def swap (ticket : SupportRequest) (oldItem : Item) (swappedToItemId : UUID)
    (oldItemNextStatus : DeviceStatus) (actorId : UUID) : Service Unit := do
  raiseIf (swappedToItemId = oldItem.id) (validationException "Cannot swap a device for itself.")
  let requestId ← orRaise ticket.requestId
    (conflictException "This support request has no tied request to repoint.")
  let newItem ← getItemOr404 swappedToItemId
  raiseIf (newItem.categoryId ≠ oldItem.categoryId)
    (validationException "The swap target must be in the same category as the device.")
  raiseIf (newItem.status ≠ .available)
    (conflictException "The swap target must be an available device.")
  let request ← RequestRepository.getById requestId
  let request ← orRaise request (notFoundException "The tied request was not found.")
  let _ ← RequestRepository.update { request with assignedItemId := some newItem.id }
  let _ ← ItemRepository.update (oldItem.release oldItemNextStatus)
  let _ ← ItemRepository.update (AssignmentService.handedItem newItem request.requesterId)
  let _ ← append (swapLog .swappedOut oldItem.id request.id ticket.id actorId
    "swapped_to_item_id" newItem.id)
  let _ ← append (swapLog .swappedIn newItem.id request.id ticket.id actorId
    "swapped_from_item_id" oldItem.id)

def markLost (ticket : SupportRequest) (item : Item) (actorId : UUID) : Service Unit := do
  let requestId ← orRaise ticket.requestId
    (conflictException "This support request has no tied request to complete.")
  let request ← RequestRepository.getById requestId
  let request ← orRaise request (notFoundException "The tied request was not found.")
  let _ ← ItemRepository.update (item.setStatus .lost)
  let now ← utcNow 0
  let _ ← RequestRepository.update (ShippingService.completedRequest request none actorId now)
  let _ ← append (ticketLog .markedLost item.id (some request.id) ticket.id actorId item.status .lost)

/-- The part of `resolve` that depends on the resolution. -/
def applyResolution (ticket : SupportRequest) (item : Item) (resolution : SupportResolution)
    (swappedToItemId : Option UUID) (oldItemNextStatus : Option DeviceStatus) (actorId : UUID) :
    Service Unit :=
  match resolution with
  | .repairedInPlace => repairInPlace ticket item actorId
  | .swapped => do
    let swappedToItemId ← orRaise swappedToItemId .assertionError
    let oldItemNextStatus ← orRaise oldItemNextStatus .assertionError
    swap ticket item swappedToItemId oldItemNextStatus actorId
  | .markedLost => markLost ticket item actorId
  | .remoteResolved => return ()

/-- What `resolve` sets on the ticket. -/
def resolvedTicket (ticket : SupportRequest) (resolution : SupportResolution) (itNote : Option String)
    (swappedToItemId : Option UUID) (actorId : UUID) (now : Datetime) : SupportRequest :=
  { ticket with
    status := .resolved
    resolution := some resolution
    itNote := itNote
    resolvedBy := some actorId
    resolvedAt := some now
    swappedToItemId := if resolution = .swapped then swappedToItemId else ticket.swappedToItemId }

/-- The log entry of a resolved ticket. -/
def resolvedLog (itemId ticketId actorId : UUID) : AppendArgs where
  itemId := itemId
  eventType := .supportResolved
  actorId := some actorId
  actorRole := .itAdmin
  supportRequestId := some ticketId

/-- The clock is read for the ticket, after `_mark_lost` has read it for the request. -/
def resolve (supportRequestId : UUID) (resolution : SupportResolution) (itNote : Option String)
    (swappedToItemId : Option UUID) (oldItemNextStatus : Option DeviceStatus) (actorId : UUID) :
    Service SupportRequest := do
  let ticket ← getTicketOr404 supportRequestId
  raiseIf (ticket.status = .resolved)
    (conflictException "This support request is already resolved.")
  let item ← getItemOr404 ticket.itemId
  applyResolution ticket item resolution swappedToItemId oldItemNextStatus actorId
  let now ← utcNow (if resolution = .markedLost then 1 else 0)
  let updated ← SupportRequestRepository.update
    (resolvedTicket ticket resolution itNote swappedToItemId actorId now)
  let _ ← append (resolvedLog item.id updated.id actorId)
  return updated

/-! ### Inversion -/

variable {ctx : Ctx} {db db' : Db} {ticket row : SupportRequest} {item : Item} {actorId : UUID}
  {u : Unit}

@[simp] theorem runs_getTicketOr404 {id : UUID} {t : SupportRequest} :
    (getTicketOr404 id).Runs ctx db t db' ↔ db.supportRequests.get? id = some t ∧ db' = db := by
  simp [getTicketOr404, and_comm, eq_comm]

@[simp] theorem runs_getItemOr404 {id : UUID} {i : Item} :
    (getItemOr404 id).Runs ctx db i db' ↔ db.items.get? id = some i ∧ db' = db := by
  simp [getItemOr404, and_comm, eq_comm]

theorem runs_startRepair : (startRepair ticket actorId).Runs ctx db u db' ↔
    (ticket.type ≠ .damage ∧ db' = db) ∨
    (ticket.type = .damage ∧
      ∃ item, db.items.get? ticket.itemId = some item ∧
      ∃ item', item' = flushed ctx db (item.setStatus .underRepair) ∧
        Model.constraints db item' = .ok () ∧
      ∃ log, log = ticketLog .statusChanged item.id none ticket.id actorId item.status .underRepair ∧
        (db.setItem item').DeviceLogIntegral log.row ∧
      db' = (db.setItem item').appendLog (log.written ctx)) := by
  rcases h : ticket.type <;> simp [startRepair, h]

theorem runs_start {supportRequestId : UUID} : (start supportRequestId actorId).Runs ctx db row db' ↔
    ∃ ticket, db.supportRequests.get? supportRequestId = some ticket ∧ ticket.status = .opened ∧
      ∃ ticket', ticket' = flushed ctx db { ticket with status := .inProgress } ∧
        Model.constraints db ticket' = .ok () ∧
      (∃ u, (startRepair ticket' actorId).Runs ctx (db.setSupportRequest ticket') u db') ∧
      row = ticket' := by
  simp [start, and_assoc]

theorem runs_repairInPlace : (repairInPlace ticket item actorId).Runs ctx db u db' ↔
    item.status = .underRepair ∧
      ∃ item', item' = flushed ctx db (item.setStatus .assigned) ∧
        Model.constraints db item' = .ok () ∧
      ∃ log, log = ticketLog .statusChanged item.id none ticket.id actorId .underRepair .assigned ∧
        (db.setItem item').DeviceLogIntegral log.row ∧
      db' = (db.setItem item').appendLog (log.written ctx) := by
  simp [repairInPlace]

theorem runs_swap {newId : UUID} {next : DeviceStatus} :
    (swap ticket item newId next actorId).Runs ctx db u db' ↔
    newId ≠ item.id ∧ ∃ requestId, ticket.requestId = some requestId ∧
      ∃ newItem, db.items.get? newId = some newItem ∧ newItem.categoryId = item.categoryId ∧
        newItem.status = .available ∧
      ∃ request, db.requests.get? requestId = some request ∧
      ∃ request', request' = flushed ctx db { request with assignedItemId := some newItem.id } ∧
        Model.constraints db request' = .ok () ∧
      ∃ db₁, db₁ = db.setRequest request' ∧
      ∃ old', old' = flushed ctx db₁ (item.release next) ∧ Model.constraints db₁ old' = .ok () ∧
      ∃ db₂, db₂ = db₁.setItem old' ∧
      ∃ new', new' = flushed ctx db₂ (AssignmentService.handedItem newItem request.requesterId) ∧
        Model.constraints db₂ new' = .ok () ∧
      ∃ log, log = swapLog .swappedOut item.id request.id ticket.id actorId
          "swapped_to_item_id" newItem.id ∧
        (db₂.setItem new').DeviceLogIntegral log.row ∧
      ∃ log', log' = swapLog .swappedIn newItem.id request.id ticket.id actorId
          "swapped_from_item_id" item.id ∧
        ((db₂.setItem new').appendLog (log.written ctx)).DeviceLogIntegral log'.row ∧
      db' = ((db₂.setItem new').appendLog (log.written ctx)).appendLog (log'.written ctx) := by
  simp [swap, eq_comm]

theorem runs_markLost : (markLost ticket item actorId).Runs ctx db u db' ↔
    ∃ requestId, ticket.requestId = some requestId ∧
      ∃ request, db.requests.get? requestId = some request ∧
      ∃ item', item' = flushed ctx db (item.setStatus .lost) ∧ Model.constraints db item' = .ok () ∧
      ∃ request', request' = flushed ctx (db.setItem item')
          (ShippingService.completedRequest request none actorId (ctx.clock 0)) ∧
        Model.constraints (db.setItem item') request' = .ok () ∧
      ∃ log, log = ticketLog .markedLost item.id (some request.id) ticket.id actorId item.status .lost ∧
        ((db.setItem item').setRequest request').DeviceLogIntegral log.row ∧
      db' = ((db.setItem item').setRequest request').appendLog (log.written ctx) := by
  simp [markLost]

theorem runs_resolve {supportRequestId : UUID} {resolution : SupportResolution} {note : Option String}
    {newId : Option UUID} {next : Option DeviceStatus} :
    (resolve supportRequestId resolution note newId next actorId).Runs ctx db row db' ↔
    ∃ ticket, db.supportRequests.get? supportRequestId = some ticket ∧ ticket.status ≠ .resolved ∧
      ∃ item, db.items.get? ticket.itemId = some item ∧
      ∃ u db₁, (applyResolution ticket item resolution newId next actorId).Runs ctx db u db₁ ∧
      ∃ ticket', ticket' = flushed ctx db₁ (resolvedTicket ticket resolution note newId actorId
          (ctx.clock (if resolution = .markedLost then 1 else 0))) ∧
        Model.constraints db₁ ticket' = .ok () ∧
      (db₁.setSupportRequest ticket').DeviceLogIntegral (resolvedLog item.id ticket'.id actorId).row ∧
      row = ticket' ∧
      db' = (db₁.setSupportRequest ticket').appendLog
        ((resolvedLog item.id ticket'.id actorId).written ctx) := by
  simp [resolve, and_assoc]

end SupportService

end AssetPilot
