import AssetPilot.Services.AssignmentService

/-!
# The approval queue

`app/services/request_service.py`: reject, cancel and escalate. None of them touches an item or writes
the audit log.
-/

namespace AssetPilot

open Txn
open SQLAlchemyRepository (flushed)

def _TERMINAL_STATUSES : List RequestStatus := [.completed, .rejected, .cancelled]

namespace RequestService

def getRequestOr404 (requestId : UUID) : Service Request := do
  let request ← RequestRepository.getById requestId
  orRaise request (notFoundException "Request not found.")

/-- What `reject` sets on the request. -/
def rejectedRequest (request : Request) (rejectedReason : String) (itDecisionNote : Option String)
    (actorId : UUID) (now : Datetime) : Request :=
  { request with
    status := .rejected
    rejectedBy := some .itAdmin
    rejectedReason := some rejectedReason
    itDecisionNote := itDecisionNote
    itDecidedBy := some actorId
    itDecidedAt := some now }

def reject (requestId : UUID) (rejectedReason : String) (itDecisionNote : Option String)
    (actorId : UUID) : Service Request := do
  let request ← getRequestOr404 requestId
  raiseIf (request.status ≠ .pendingItApproval)
    (conflictException "Only requests pending IT approval can be rejected.")
  let now ← utcNow 0
  RequestRepository.update (rejectedRequest request rejectedReason itDecisionNote actorId now)

/-- What `cancel` sets on the request. -/
def cancelledRequest (request : Request) (rejectedReason : String) (actorId : UUID) (now : Datetime) :
    Request :=
  { request with
    status := .cancelled
    cancelledBy := some actorId
    cancelledAt := some now
    rejectedBy := some .itAdminCancel
    rejectedReason := some rejectedReason }

def cancel (requestId : UUID) (rejectedReason : String) (actorId : UUID) : Service Request := do
  let request ← getRequestOr404 requestId
  raiseIf (request.status ∈ _TERMINAL_STATUSES)
    (conflictException "Cannot cancel a request that has already reached a terminal state.")
  let now ← utcNow 0
  RequestRepository.update (cancelledRequest request rejectedReason actorId now)

/-- The manager of an escalation: the given one, or the requester's. -/
def resolveManager (request : Request) (managerId : Option UUID) : Service (Option UUID) :=
  match managerId with
  | some m => return some m
  | none => do
    let requester ← UserRepository.getById request.requesterId
    return requester.bind User.managerId

/-- What `escalate_to_manager` sets on the request. -/
def escalatedRequest (request : Request) (managerId : Option UUID) : Request :=
  { request with
    requiresMgrApproval := true
    mgrApprovalStatus := .pending
    managerId := managerId
    status := .pendingMgrApproval }

def escalateToManager (requestId : UUID) (managerId : Option UUID) : Service Request := do
  let request ← getRequestOr404 requestId
  raiseIf (request.status ≠ .pendingItApproval ∨ request.requiresMgrApproval = true)
    (conflictException <| "Only requests pending IT approval that have not yet required manager " ++
      "approval can be escalated.")
  let resolvedManagerId ← resolveManager request managerId
  RequestRepository.update (escalatedRequest request resolvedManagerId)

/-! ### Inversion -/

variable {ctx : Ctx} {db db' : Db} {requestId actorId : UUID} {row : Request}

@[simp] theorem runs_getRequestOr404 {id : UUID} {r : Request} :
    (getRequestOr404 id).Runs ctx db r db' ↔ db.requests.get? id = some r ∧ db' = db := by
  simp [getRequestOr404, and_comm, eq_comm]

/-- The manager that `resolveManager` finds. -/
def resolvedManager (db : Db) (request : Request) : Option UUID → Option UUID
  | some m => some m
  | none => (db.users.get? request.requesterId).bind User.managerId

@[simp] theorem runs_resolveManager {request : Request} {managerId m : Option UUID} :
    (resolveManager request managerId).Runs ctx db m db' ↔
      m = resolvedManager db request managerId ∧ db' = db := by
  cases managerId <;> simp [resolveManager, resolvedManager, and_comm]

theorem runs_reject {reason : String} {note : Option String} :
    (reject requestId reason note actorId).Runs ctx db row db' ↔
      ∃ request, db.requests.get? requestId = some request ∧ request.status = .pendingItApproval ∧
        Model.constraints db row = .ok () ∧
        row = flushed ctx db (rejectedRequest request reason note actorId (ctx.clock 0)) ∧
        db' = db.setRequest row := by
  simp [reject]

theorem runs_cancel {reason : String} :
    (cancel requestId reason actorId).Runs ctx db row db' ↔
      ∃ request, db.requests.get? requestId = some request ∧ request.status ∉ _TERMINAL_STATUSES ∧
        Model.constraints db row = .ok () ∧
        row = flushed ctx db (cancelledRequest request reason actorId (ctx.clock 0)) ∧
        db' = db.setRequest row := by
  simp [cancel]

theorem runs_escalateToManager {managerId : Option UUID} :
    (escalateToManager requestId managerId).Runs ctx db row db' ↔
      ∃ request, db.requests.get? requestId = some request ∧
        (request.status = .pendingItApproval ∧ request.requiresMgrApproval = false) ∧
        Model.constraints db row = .ok () ∧
        row = flushed ctx db (escalatedRequest request (resolvedManager db request managerId)) ∧
        db' = db.setRequest row := by
  simp [escalateToManager]

end RequestService

end AssetPilot
