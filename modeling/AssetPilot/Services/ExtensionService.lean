import AssetPilot.Services.SupportService

/-!
# Extension review

`app/services/extension_service.py`: approving an extension moves the end of the parent request's
assignment, rejecting it leaves the parent alone. The results of the two queries have the columns of the
repository's rows.
-/

namespace AssetPilot

open Txn
open SQLAlchemyRepository (flushed)
open DeviceLogService (AppendArgs append)

namespace ExtensionService

def _MGR_APPROVAL_STATUSES_ALLOWING_IT_APPROVAL : List MgrApprovalStatus := [.notRequired, .approved]

def getExtensionOr404 (extensionRequestId : UUID) : Service ExtensionRequest := do
  let extensionRequest ← ExtensionRequestRepository.getById extensionRequestId
  orRaise extensionRequest (notFoundException "Extension request not found.")

def getParentRequestOr404 (requestId : UUID) : Service Request := do
  let request ← RequestRepository.getById requestId
  orRaise request (notFoundException "The parent request was not found.")

def listExtensionRequests (status : Option ExtensionStatus)
    (order : Relational.OrderBy ExtensionRequestRepository.extensionOrder) :
    Service (List ExtensionRequestRepository.ExtensionListRow) :=
  ExtensionRequestRepository.listFiltered status order

def getDetail (extensionRequestId : UUID) : Service ExtensionRequestRepository.ExtensionDetailRow := do
  let row ← ExtensionRequestRepository.getDetail extensionRequestId
  orRaise row (notFoundException "Extension request not found.")

/-- What a decision sets on the extension. -/
def decidedExtension (x : ExtensionRequest) (status : ExtensionStatus) (itNote : Option String)
    (actorId : UUID) (now : Datetime) : ExtensionRequest :=
  { x with
    status := status
    itDecidedBy := some actorId
    itNote := itNote
    itDecidedAt := some now }

/-- The log entry of a decision. -/
def decisionLog (event : DeviceLogEvent) (itemId requestId extensionId actorId : UUID) : AppendArgs where
  itemId := itemId
  eventType := event
  actorId := some actorId
  actorRole := .itAdmin
  requestId := some requestId
  extensionRequestId := some extensionId
  isMilestone := some false

def approve (extensionRequestId : UUID) (itNote : Option String) (actorId : UUID) :
    Service ExtensionRequest := do
  let extensionRequest ← getExtensionOr404 extensionRequestId
  raiseIf (extensionRequest.status ≠ .pending)
    (conflictException "Only pending extension requests can be approved.")
  raiseIf (extensionRequest.mgrApprovalStatus ∉ _MGR_APPROVAL_STATUSES_ALLOWING_IT_APPROVAL)
    (conflictException "This extension is awaiting manager approval and cannot be approved yet.")
  let parentRequest ← getParentRequestOr404 extensionRequest.originalRequestId
  let parentRequest ← RequestRepository.update
    { parentRequest with assignedTo := some extensionRequest.extendedTo }
  let now ← utcNow 0
  let updated ← ExtensionRequestRepository.update
    (decidedExtension extensionRequest .approved itNote actorId now)
  let assignedItemId ← orRaise parentRequest.assignedItemId .assertionError
  let _ ← append (decisionLog .extensionApproved assignedItemId parentRequest.id updated.id actorId)
  return updated

def reject (extensionRequestId : UUID) (itNote : Option String) (actorId : UUID) :
    Service ExtensionRequest := do
  let extensionRequest ← getExtensionOr404 extensionRequestId
  raiseIf (extensionRequest.status ≠ .pending)
    (conflictException "Only pending extension requests can be rejected.")
  let parentRequest ← getParentRequestOr404 extensionRequest.originalRequestId
  let now ← utcNow 0
  let updated ← ExtensionRequestRepository.update
    (decidedExtension extensionRequest .rejected itNote actorId now)
  let assignedItemId ← orRaise parentRequest.assignedItemId .assertionError
  let _ ← append (decisionLog .extensionRejected assignedItemId parentRequest.id updated.id actorId)
  return updated

/-! ### Inversion -/

variable {ctx : Ctx} {db db' : Db} {extensionId actorId : UUID} {row : ExtensionRequest}
  {note : Option String}

@[simp] theorem runs_getExtensionOr404 {id : UUID} {x : ExtensionRequest} :
    (getExtensionOr404 id).Runs ctx db x db' ↔ db.extensionRequests.get? id = some x ∧ db' = db := by
  simp [getExtensionOr404, and_comm, eq_comm]

@[simp] theorem runs_getParentRequestOr404 {id : UUID} {r : Request} :
    (getParentRequestOr404 id).Runs ctx db r db' ↔ db.requests.get? id = some r ∧ db' = db := by
  simp [getParentRequestOr404, and_comm, eq_comm]

@[simp] theorem runs_listExtensionRequests {status : Option ExtensionStatus}
    {order : Relational.OrderBy ExtensionRequestRepository.extensionOrder}
    {rows : List ExtensionRequestRepository.ExtensionListRow} :
    (listExtensionRequests status order).Runs ctx db rows db' ↔ rows = order.sort
      ((ExtensionRequestRepository.extensionQuery status db).rows db.extensionRequests) ∧ db' = db :=
  ExtensionRequestRepository.runs_listFiltered

@[simp] theorem runs_getDetail {row : ExtensionRequestRepository.ExtensionDetailRow} :
    (getDetail extensionId).Runs ctx db row db' ↔ some row =
      ((ExtensionRequestRepository.extensionDetailQuery extensionId db).rows db.extensionRequests).head? ∧
        db' = db := by
  simp [getDetail, and_comm, eq_comm]

theorem runs_approve : (approve extensionId note actorId).Runs ctx db row db' ↔
    ∃ x, db.extensionRequests.get? extensionId = some x ∧ x.status = .pending ∧
      x.mgrApprovalStatus ∈ _MGR_APPROVAL_STATUSES_ALLOWING_IT_APPROVAL ∧
      ∃ parent, db.requests.get? x.originalRequestId = some parent ∧
      ∃ parent', parent' = flushed ctx db { parent with assignedTo := some x.extendedTo } ∧
        Model.constraints db parent' = .ok () ∧
      ∃ x', x' = flushed ctx (db.setRequest parent')
          (decidedExtension x .approved note actorId (ctx.clock 0)) ∧
        Model.constraints (db.setRequest parent') x' = .ok () ∧
      ∃ itemId, parent'.assignedItemId = some itemId ∧
      ∃ log, log = decisionLog .extensionApproved itemId parent'.id x'.id actorId ∧
        ((db.setRequest parent').setExtensionRequest x').DeviceLogIntegral log.row ∧
      row = x' ∧
      db' = ((db.setRequest parent').setExtensionRequest x').appendLog (log.written ctx) := by
  simp [approve, and_assoc]

theorem runs_reject : (reject extensionId note actorId).Runs ctx db row db' ↔
    ∃ x, db.extensionRequests.get? extensionId = some x ∧ x.status = .pending ∧
      ∃ parent, db.requests.get? x.originalRequestId = some parent ∧
      ∃ x', x' = flushed ctx db (decidedExtension x .rejected note actorId (ctx.clock 0)) ∧
        Model.constraints db x' = .ok () ∧
      ∃ itemId, parent.assignedItemId = some itemId ∧
      ∃ log, log = decisionLog .extensionRejected itemId parent.id x'.id actorId ∧
        (db.setExtensionRequest x').DeviceLogIntegral log.row ∧
      row = x' ∧ db' = (db.setExtensionRequest x').appendLog (log.written ctx) := by
  simp [reject, and_assoc]

end ExtensionService

end AssetPilot
