import AssetPilot.Services.RequestService

/-!
# Calls as units of work

A call that decides a request works in two steps. It reads: it loads its rows by primary key, evaluates
its guards and stages what it has changed. Later its flush writes: `session.get` takes no lock and the
rows have no version column, so an `UPDATE` sets the changed columns of the row as it is stored by then.
`Call.run_eq` ties the two steps to the service operations: flushed right after the read, they are the
operation itself.
-/

namespace AssetPilot

open Relational Txn
open SQLAlchemyRepository (stored)
open DeviceLogService (AppendArgs append)

/-! ### Updating the changed columns -/

/-- A column after the `UPDATE`: set when the session has changed it, else as it is stored. -/
def column {α : Type} [DecidableEq α] (loaded changed current : α) : α :=
  if changed = loaded then current else changed

/-- `column` for a `varchar(255)` column. -/
def textColumn (loaded changed current : String) : String :=
  if changed = loaded then current else varchar changed

/-- `textColumn` for a column that may be null. -/
def textColumn? (loaded changed current : Option String) : Option String :=
  if changed = loaded then current else changed.map varchar

/-- The mapped columns of a class, one by one. -/
class Columns (α : Type) where
  overlay : α → α → α → α

/-- The stored row `x` under the columns in which `c` differs from `l`. -/
instance : Columns Item where
  overlay l c x := {
    id := x.id
    name := textColumn l.name c.name x.name
    serialNo := textColumn l.serialNo c.serialNo x.serialNo
    categoryId := column l.categoryId c.categoryId x.categoryId
    ownerType := column l.ownerType c.ownerType x.ownerType
    clientName := textColumn? l.clientName c.clientName x.clientName
    status := column l.status c.status x.status
    currentOwnerId := column l.currentOwnerId c.currentOwnerId x.currentOwnerId
    purchaseDate := column l.purchaseDate c.purchaseDate x.purchaseDate
    qrCodeToken := column l.qrCodeToken c.qrCodeToken x.qrCodeToken
    createdAt := column l.createdAt c.createdAt x.createdAt
    updatedAt := column l.updatedAt c.updatedAt x.updatedAt }

/-- The stored row `x` under the columns in which `c` differs from `l`. -/
instance : Columns Request where
  overlay l c x := {
    id := x.id
    requesterId := column l.requesterId c.requesterId x.requesterId
    categoryId := column l.categoryId c.categoryId x.categoryId
    assignedItemId := column l.assignedItemId c.assignedItemId x.assignedItemId
    requestedFrom := column l.requestedFrom c.requestedFrom x.requestedFrom
    requestedTo := column l.requestedTo c.requestedTo x.requestedTo
    assignedFrom := column l.assignedFrom c.assignedFrom x.assignedFrom
    assignedTo := column l.assignedTo c.assignedTo x.assignedTo
    status := column l.status c.status x.status
    priority := column l.priority c.priority x.priority
    note := column l.note c.note x.note
    requiresMgrApproval := column l.requiresMgrApproval c.requiresMgrApproval x.requiresMgrApproval
    mgrApprovalStatus := column l.mgrApprovalStatus c.mgrApprovalStatus x.mgrApprovalStatus
    managerId := column l.managerId c.managerId x.managerId
    managerDecisionNote := column l.managerDecisionNote c.managerDecisionNote x.managerDecisionNote
    managerDecidedAt := column l.managerDecidedAt c.managerDecidedAt x.managerDecidedAt
    itDecidedBy := column l.itDecidedBy c.itDecidedBy x.itDecidedBy
    itDecisionNote := column l.itDecisionNote c.itDecisionNote x.itDecisionNote
    itDecidedAt := column l.itDecidedAt c.itDecidedAt x.itDecidedAt
    rejectedBy := column l.rejectedBy c.rejectedBy x.rejectedBy
    rejectedReason := column l.rejectedReason c.rejectedReason x.rejectedReason
    cancelledBy := column l.cancelledBy c.cancelledBy x.cancelledBy
    cancelledAt := column l.cancelledAt c.cancelledAt x.cancelledAt
    isWfh := column l.isWfh c.isWfh x.isWfh
    shipTrackingUrl := column l.shipTrackingUrl c.shipTrackingUrl x.shipTrackingUrl
    shipInitiatedAt := column l.shipInitiatedAt c.shipInitiatedAt x.shipInitiatedAt
    shipCompletedAt := column l.shipCompletedAt c.shipCompletedAt x.shipCompletedAt
    returnTrackingUrl := column l.returnTrackingUrl c.returnTrackingUrl x.returnTrackingUrl
    returnInitiatedAt := column l.returnInitiatedAt c.returnInitiatedAt x.returnInitiatedAt
    completedAt := column l.completedAt c.completedAt x.completedAt
    completedBy := column l.completedBy c.completedBy x.completedBy
    completedNextStatus := column l.completedNextStatus c.completedNextStatus x.completedNextStatus
    isClientDirect := column l.isClientDirect c.isClientDirect x.isClientDirect
    createdAt := column l.createdAt c.createdAt x.createdAt
    updatedAt := column l.updatedAt c.updatedAt x.updatedAt }

section
variable {α : Type} [Keyed α UUID] [Model α] [DecidableEq α] [Columns α]

/-- The row as the flush leaves it over the stored row `current`. -/
def overlaid (ctx : Ctx) (loaded changed current : α) : α :=
  Model.touch (if changed = loaded then Model.updatedAt current else ctx.txTime)
    (Columns.overlay loaded changed current)

/-- `UPDATE … SET` the changed columns `WHERE id = …`, then `refresh`. -/
def updateColumns (loaded changed : α) : Service α := do
  let ctx ← ask
  let db ← get
  let current ← orRaise (stored db loaded) .staleDataError
  let row := overlaid ctx loaded changed current
  check (Model.constraints db row)
  modify fun db => Model.setRow db row
  return row

end

/-! ### The two steps -/

/-- The `INSERT` or `UPDATE` of the request. -/
inductive RequestWrite
  | update (loaded changed : Request)
  | create (request : Request)

/-- What a call has staged in its session when it flushes. -/
inductive UnitOfWork
  /-- A decision on the request alone. -/
  | decision (loaded changed : Request)
  /-- The request and its device in one flush, and the log entry after it. -/
  | handOver (request : RequestWrite) (loaded changed : Item) (log : AppendArgs)

def RequestWrite.flush : RequestWrite → Service Request
  | .update loaded changed => updateColumns loaded changed
  | .create request => RequestRepository.create request

def UnitOfWork.commit : UnitOfWork → Service Request
  | .decision loaded changed => updateColumns loaded changed
  | .handOver request loaded changed log => do
    let row ← mapFailure
      (integrityErrorAsConflict "This device was just assigned to another active request.") do
        let row ← request.flush
        let _ ← updateColumns loaded changed
        return row
    let _ ← append log
    return row

namespace AssignmentService

/-- `assign` up to its flush. -/
def stageAssign (requestId itemId : UUID) (assignedFrom assignedTo : Datetime) (isWfh : Bool)
    (actorId : UUID) : Service UnitOfWork := do
  let request ← getRequestOr404 requestId
  raiseIf (request.status ≠ .pendingItApproval)
    (conflictException "Only requests pending IT approval can be assigned.")
  let item ← getItemOr404 itemId
  raiseIf (item.status ≠ .available) (conflictException "Only available devices can be assigned.")
  raiseIf (item.categoryId ≠ request.categoryId)
    (validationException "The device category does not match the request's category.")
  let overlapping ← RequestRepository.hasOverlappingAssignedBooking itemId assignedFrom assignedTo
    (some request.id)
  raiseIf overlapping
    (conflictException "The chosen dates overlap another active booking for this device.")
  let now ← utcNow 0
  return .handOver
    (.update request (assignedRequest request itemId assignedFrom assignedTo isWfh actorId now))
    item (handedItem item request.requesterId) (handedLog .assigned item.id request.id actorId)

/-- `direct_assign` up to its flush. -/
def stageDirectAssign (itemId employeeId : UUID) (assignedFrom assignedTo : Datetime) (actorId : UUID) :
    Service UnitOfWork := do
  let item ← getItemOr404 itemId
  raiseIf (item.ownerType ≠ .client)
    (validationException "Direct-assign is only valid for client-owned devices.")
  raiseIf (item.status ≠ .available)
    (conflictException "Only available devices can be directly assigned.")
  let overlapping ← RequestRepository.hasOverlappingAssignedBooking itemId assignedFrom assignedTo none
  raiseIf overlapping
    (conflictException "The chosen dates overlap another active booking for this device.")
  let employee ← UserRepository.getById employeeId
  let employee ← orRaise employee (notFoundException "Employee not found.")
  raiseIf (¬ employee.isActive)
    (conflictException "Only active employees can be assigned devices.")
  let now ← utcNow 0
  let id ← uuid4 0
  return .handOver
    (.create (directRequest id itemId item.categoryId employeeId assignedFrom assignedTo actorId now))
    item (handedItem item employeeId) (handedLog .clientAssigned item.id id actorId)

end AssignmentService

namespace RequestService

/-- `reject` up to its flush. -/
def stageReject (requestId : UUID) (rejectedReason : String) (itDecisionNote : Option String)
    (actorId : UUID) : Service UnitOfWork := do
  let request ← getRequestOr404 requestId
  raiseIf (request.status ≠ .pendingItApproval)
    (conflictException "Only requests pending IT approval can be rejected.")
  let now ← utcNow 0
  return .decision request (rejectedRequest request rejectedReason itDecisionNote actorId now)

/-- `cancel` up to its flush. -/
def stageCancel (requestId : UUID) (rejectedReason : String) (actorId : UUID) : Service UnitOfWork := do
  let request ← getRequestOr404 requestId
  raiseIf (request.status ∈ _TERMINAL_STATUSES)
    (conflictException "Cannot cancel a request that has already reached a terminal state.")
  let now ← utcNow 0
  return .decision request (cancelledRequest request rejectedReason actorId now)

/-- `escalate_to_manager` up to its flush. -/
def stageEscalateToManager (requestId : UUID) (managerId : Option UUID) : Service UnitOfWork := do
  let request ← getRequestOr404 requestId
  raiseIf (request.status ≠ .pendingItApproval ∨ request.requiresMgrApproval = true)
    (conflictException <| "Only requests pending IT approval that have not yet required manager " ++
      "approval can be escalated.")
  let resolvedManagerId ← resolveManager request managerId
  return .decision request (escalatedRequest request resolvedManagerId)

end RequestService

/-- A call that decides a request, or hands out a device without one. -/
inductive Call
  | assign (requestId itemId : UUID) (assignedFrom assignedTo : Datetime) (isWfh : Bool) (actorId : UUID)
  | directAssign (itemId employeeId : UUID) (assignedFrom assignedTo : Datetime) (actorId : UUID)
  | reject (requestId : UUID) (rejectedReason : String) (itDecisionNote : Option String) (actorId : UUID)
  | cancel (requestId : UUID) (rejectedReason : String) (actorId : UUID)
  | escalateToManager (requestId : UUID) (managerId : Option UUID)

/-- The service operation. -/
def Call.run : Call → Service Request
  | .assign requestId itemId assignedFrom assignedTo isWfh actorId =>
    AssignmentService.assign requestId itemId assignedFrom assignedTo isWfh actorId
  | .directAssign itemId employeeId assignedFrom assignedTo actorId =>
    AssignmentService.directAssign itemId employeeId assignedFrom assignedTo actorId
  | .reject requestId rejectedReason itDecisionNote actorId =>
    RequestService.reject requestId rejectedReason itDecisionNote actorId
  | .cancel requestId rejectedReason actorId => RequestService.cancel requestId rejectedReason actorId
  | .escalateToManager requestId managerId => RequestService.escalateToManager requestId managerId

/-- Its read step. -/
def Call.stage : Call → Service UnitOfWork
  | .assign requestId itemId assignedFrom assignedTo isWfh actorId =>
    AssignmentService.stageAssign requestId itemId assignedFrom assignedTo isWfh actorId
  | .directAssign itemId employeeId assignedFrom assignedTo actorId =>
    AssignmentService.stageDirectAssign itemId employeeId assignedFrom assignedTo actorId
  | .reject requestId rejectedReason itDecisionNote actorId =>
    RequestService.stageReject requestId rejectedReason itDecisionNote actorId
  | .cancel requestId rejectedReason actorId =>
    RequestService.stageCancel requestId rejectedReason actorId
  | .escalateToManager requestId managerId => RequestService.stageEscalateToManager requestId managerId

/-- The item the call hands out. -/
def Call.item : Call → Option UUID
  | .assign _ itemId _ _ _ _ => some itemId
  | .directAssign itemId _ _ _ _ => some itemId
  | .reject .. | .cancel .. | .escalateToManager .. => none

/-- The request the call decides. -/
def Call.request : Call → Option UUID
  | .assign requestId _ _ _ _ _ => some requestId
  | .directAssign .. => none
  | .reject requestId _ _ _ => some requestId
  | .cancel requestId _ _ => some requestId
  | .escalateToManager requestId _ => some requestId

/-- The administrator who makes the call, where it records one. -/
def Call.actor : Call → Option UUID
  | .assign _ _ _ _ _ actorId => some actorId
  | .directAssign _ _ _ _ actorId => some actorId
  | .reject _ _ _ actorId => some actorId
  | .cancel _ _ actorId => some actorId
  | .escalateToManager .. => none

/-- The primary key of the request that the call writes. -/
def Call.key (c : Call) (ctx : Ctx) : UUID := c.request.getD (ctx.uuid4 0)

/-! ### The two steps make the operation -/

@[simp] theorem column_same {α : Type} [DecidableEq α] (l c : α) : column l c l = c := by
  unfold column
  split_ifs with h
  · exact h.symm
  · rfl

@[simp] theorem column_unchanged {α : Type} [DecidableEq α] (l x : α) : column l l x = x :=
  if_pos rfl

@[simp] theorem textColumn_same (l c : String) : textColumn l c l = varcharColumn (some l) c := by
  unfold textColumn varcharColumn
  split_ifs with h <;> simp_all

@[simp] theorem textColumn_unchanged (l x : String) : textColumn l l x = x := if_pos rfl

@[simp] theorem textColumn?_same (l c : Option String) : textColumn? l c l = varcharColumn? (some l) c := by
  unfold textColumn? varcharColumn?
  split_ifs with h <;> simp_all

@[simp] theorem textColumn?_unchanged (l x : Option String) : textColumn? l l x = x := if_pos rfl

section
variable {α : Type} [Keyed α UUID] [Model α] [DecidableEq α] [Columns α] {ctx : Ctx} {db : Db}

/-- Right after its read, a flush is the `update` of the whole row. -/
theorem updateColumns_of_stored {loaded changed : α} (hstored : stored db loaded = some loaded)
    (hkey : Keyed.key changed = Keyed.key loaded)
    (htouch : Model.updatedAt changed = Model.updatedAt loaded)
    (hoverlay : Columns.overlay loaded changed loaded = Model.assign (some loaded) changed) :
    updateColumns loaded changed ctx db = SQLAlchemyRepository.update changed ctx db := by
  have hrow : overlaid ctx loaded changed loaded = SQLAlchemyRepository.flushed ctx db changed := by
    have hiff : stored db changed = some changed ↔ changed = loaded := by
      rw [stored, hkey, ← stored, hstored, Option.some.injEq, eq_comm]
    have hloaded : stored db changed = some loaded := by rw [stored, hkey, ← stored, hstored]
    simp only [overlaid, SQLAlchemyRepository.flushed, hoverlay, hiff, htouch]
    rw [hloaded]
  show (orRaise (stored db loaded) _ >>= _) ctx db = _
  rw [hstored]
  show (check (Model.constraints db (overlaid ctx loaded changed loaded)) >>= _) ctx db = _
  rw [hrow]
  rfl

end

variable {ctx : Ctx} {db : Db}

theorem Request.updateColumns_of_get? {r c : Request} (h : db.requests.get? r.id = some r)
    (hid : c.id = r.id) (htouch : c.updatedAt = r.updatedAt) :
    updateColumns r c ctx db = RequestRepository.update c ctx db :=
  updateColumns_of_stored h hid htouch (by simp [Columns.overlay, Model.assign, ← hid])

theorem Item.updateColumns_of_get? {i c : Item} (h : db.items.get? i.id = some i)
    (hid : c.id = i.id) (htouch : c.updatedAt = i.updatedAt) :
    updateColumns i c ctx db = ItemRepository.update c ctx db :=
  updateColumns_of_stored h hid htouch (by simp [Columns.overlay, Model.assign, ← hid])

theorem commit_handOver {request : RequestWrite} {write : Service Request} {i c : Item} {log : AppendArgs}
    (hwrite : request.flush ctx db = write ctx db)
    (hitems : ∀ row db', write.Runs ctx db row db' → db'.items = db.items)
    (hi : db.items.get? i.id = some i) (hid : c.id = i.id) (htouch : c.updatedAt = i.updatedAt) :
    (UnitOfWork.handOver request i c log).commit ctx db = (do
      let row ← mapFailure
        (integrityErrorAsConflict "This device was just assigned to another active request.") do
          let row ← write
          let _ ← ItemRepository.update c
          return row
      let _ ← append log
      return row : Service Request) ctx db := by
  refine bind_congr_left (mapFailure_congr ((bind_congr_left hwrite).trans ?_))
  refine bind_congr_runs fun row db' hrow => bind_congr_left ?_
  have hi' : db'.items.get? i.id = some i := by
    rw [hitems row db' hrow]
    exact hi
  exact Item.updateColumns_of_get? hi' hid htouch

theorem stageAssign_commit (requestId itemId : UUID) (assignedFrom assignedTo : Datetime) (isWfh : Bool)
    (actorId : UUID) :
    (AssignmentService.stageAssign requestId itemId assignedFrom assignedTo isWfh actorId >>=
        UnitOfWork.commit) ctx db =
      AssignmentService.assign requestId itemId assignedFrom assignedTo isWfh actorId ctx db := by
  simp only [AssignmentService.stageAssign, AssignmentService.assign, Txn.bind_assoc, Txn.pure_bind]
  refine bind_congr_runs fun request _ h => bind_congr_runs fun _ _ h₁ =>
    bind_congr_runs fun item _ h₂ => bind_congr_runs fun _ _ h₃ => bind_congr_runs fun _ _ h₄ =>
    bind_congr_runs fun _ _ h₅ => bind_congr_runs fun _ _ h₆ => bind_congr_runs fun now db' h₇ => ?_
  obtain ⟨hr, rfl⟩ := AssignmentService.runs_getRequestOr404.mp h
  obtain ⟨-, rfl⟩ := runs_raiseIf.mp h₁
  obtain ⟨hi, rfl⟩ := AssignmentService.runs_getItemOr404.mp h₂
  obtain ⟨-, rfl⟩ := runs_raiseIf.mp h₃
  obtain ⟨-, rfl⟩ := runs_raiseIf.mp h₄
  obtain ⟨-, rfl⟩ := RequestRepository.runs_hasOverlappingAssignedBooking.mp h₅
  obtain ⟨-, rfl⟩ := runs_raiseIf.mp h₆
  obtain ⟨rfl, rfl⟩ := runs_utcNow.mp h₇
  obtain rfl : request.id = requestId := Table.get?_key hr
  obtain rfl : item.id = itemId := Table.get?_key hi
  have hwrite : (RequestWrite.update request (AssignmentService.assignedRequest request item.id
      assignedFrom assignedTo isWfh actorId (ctx.clock 0))).flush ctx db' =
      RequestRepository.update (AssignmentService.assignedRequest request item.id
        assignedFrom assignedTo isWfh actorId (ctx.clock 0)) ctx db' :=
    Request.updateColumns_of_get? hr rfl rfl
  refine (commit_handOver hwrite (fun row db₁ h => ?_) hi AssignmentService.handedItem_id rfl).trans
    (bind_congr_runs fun row db₁ hrow => ?_)
  · rw [(RequestRepository.runs_update.mp h).2.2]
    rfl
  · simp only [runs_mapFailure, runs_bind, RequestRepository.runs_update, runs_pure] at hrow
    obtain ⟨row', db₂, ⟨-, rfl, -⟩, _, _, -, rfl, -⟩ := hrow
    rfl

theorem stageDirectAssign_commit (itemId employeeId : UUID) (assignedFrom assignedTo : Datetime)
    (actorId : UUID) :
    (AssignmentService.stageDirectAssign itemId employeeId assignedFrom assignedTo actorId >>=
        UnitOfWork.commit) ctx db =
      AssignmentService.directAssign itemId employeeId assignedFrom assignedTo actorId ctx db := by
  simp only [AssignmentService.stageDirectAssign, AssignmentService.directAssign, Txn.bind_assoc,
    Txn.pure_bind]
  refine bind_congr_runs fun item _ h => bind_congr_runs fun _ _ h₁ => bind_congr_runs fun _ _ h₂ =>
    bind_congr_runs fun _ _ h₃ => bind_congr_runs fun _ _ h₄ => bind_congr_runs fun _ _ h₅ =>
    bind_congr_runs fun employee _ h₆ => bind_congr_runs fun _ _ h₇ =>
    bind_congr_runs fun now _ h₈ => bind_congr_runs fun id db' h₉ => ?_
  obtain ⟨hi, rfl⟩ := AssignmentService.runs_getItemOr404.mp h
  obtain ⟨-, rfl⟩ := runs_raiseIf.mp h₁
  obtain ⟨-, rfl⟩ := runs_raiseIf.mp h₂
  obtain ⟨-, rfl⟩ := RequestRepository.runs_hasOverlappingAssignedBooking.mp h₃
  obtain ⟨-, rfl⟩ := runs_raiseIf.mp h₄
  obtain ⟨-, rfl⟩ := UserRepository.runs_getById.mp h₅
  obtain ⟨-, rfl⟩ := runs_orRaise.mp h₆
  obtain ⟨-, rfl⟩ := runs_raiseIf.mp h₇
  obtain ⟨rfl, rfl⟩ := runs_utcNow.mp h₈
  obtain ⟨rfl, rfl⟩ := runs_uuid4.mp h₉
  obtain rfl : item.id = itemId := Table.get?_key hi
  have hwrite : (RequestWrite.create (AssignmentService.directRequest (ctx.uuid4 0) item.id
      item.categoryId employeeId assignedFrom assignedTo actorId (ctx.clock 0))).flush ctx db' =
      RequestRepository.create (AssignmentService.directRequest (ctx.uuid4 0) item.id
        item.categoryId employeeId assignedFrom assignedTo actorId (ctx.clock 0)) ctx db' := rfl
  refine (commit_handOver hwrite (fun row db₁ h => ?_) hi AssignmentService.handedItem_id rfl).trans
    (bind_congr_runs fun row db₁ hrow => ?_)
  · rw [(RequestRepository.runs_create.mp h).2.2.2]
    rfl
  · simp only [runs_mapFailure, runs_bind, RequestRepository.runs_create, runs_pure] at hrow
    obtain ⟨row', db₂, ⟨-, -, rfl, -⟩, _, _, -, rfl, -⟩ := hrow
    rfl

theorem stageReject_commit (requestId : UUID) (rejectedReason : String) (itDecisionNote : Option String)
    (actorId : UUID) :
    (RequestService.stageReject requestId rejectedReason itDecisionNote actorId >>=
        UnitOfWork.commit) ctx db =
      RequestService.reject requestId rejectedReason itDecisionNote actorId ctx db := by
  simp only [RequestService.stageReject, RequestService.reject, Txn.bind_assoc, Txn.pure_bind]
  refine bind_congr_runs fun request _ h => bind_congr_runs fun _ _ h₁ =>
    bind_congr_runs fun now db' h₂ => ?_
  obtain ⟨hr, rfl⟩ := RequestService.runs_getRequestOr404.mp h
  obtain ⟨-, rfl⟩ := runs_raiseIf.mp h₁
  obtain ⟨-, rfl⟩ := runs_utcNow.mp h₂
  obtain rfl : request.id = requestId := Table.get?_key hr
  exact Request.updateColumns_of_get? hr rfl rfl

theorem stageCancel_commit (requestId : UUID) (rejectedReason : String) (actorId : UUID) :
    (RequestService.stageCancel requestId rejectedReason actorId >>= UnitOfWork.commit) ctx db =
      RequestService.cancel requestId rejectedReason actorId ctx db := by
  simp only [RequestService.stageCancel, RequestService.cancel, Txn.bind_assoc, Txn.pure_bind]
  refine bind_congr_runs fun request _ h => bind_congr_runs fun _ _ h₁ =>
    bind_congr_runs fun now db' h₂ => ?_
  obtain ⟨hr, rfl⟩ := RequestService.runs_getRequestOr404.mp h
  obtain ⟨-, rfl⟩ := runs_raiseIf.mp h₁
  obtain ⟨-, rfl⟩ := runs_utcNow.mp h₂
  obtain rfl : request.id = requestId := Table.get?_key hr
  exact Request.updateColumns_of_get? hr rfl rfl

theorem stageEscalateToManager_commit (requestId : UUID) (managerId : Option UUID) :
    (RequestService.stageEscalateToManager requestId managerId >>= UnitOfWork.commit) ctx db =
      RequestService.escalateToManager requestId managerId ctx db := by
  simp only [RequestService.stageEscalateToManager, RequestService.escalateToManager, Txn.bind_assoc,
    Txn.pure_bind]
  refine bind_congr_runs fun request _ h => bind_congr_runs fun _ _ h₁ =>
    bind_congr_runs fun manager db' h₂ => ?_
  obtain ⟨hr, rfl⟩ := RequestService.runs_getRequestOr404.mp h
  obtain ⟨-, rfl⟩ := runs_raiseIf.mp h₁
  obtain ⟨-, rfl⟩ := RequestService.runs_resolveManager.mp h₂
  obtain rfl : request.id = requestId := Table.get?_key hr
  exact Request.updateColumns_of_get? hr rfl rfl

/-- **Flushed right after its read, a call is the service operation.** -/
theorem Call.run_eq (c : Call) : c.run = c.stage >>= UnitOfWork.commit := by
  funext ctx db
  cases c with
  | assign => exact (stageAssign_commit _ _ _ _ _ _).symm
  | directAssign => exact (stageDirectAssign_commit _ _ _ _ _).symm
  | reject => exact (stageReject_commit _ _ _ _).symm
  | cancel => exact (stageCancel_commit _ _ _).symm
  | escalateToManager => exact (stageEscalateToManager_commit _ _).symm

end AssetPilot
