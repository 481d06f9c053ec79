import AssetPilot.Repositories.Listings

/-!
# The audit-log writer

`DeviceLogService.append` (`app/services/device_log_service.py`), which every device-touching write
calls in its own session, and `get_timeline`, which reads the log of one device.
-/

namespace AssetPilot

open Relational Txn

/-- Which events surface in the milestone-only timeline. -/
def EVENT_MILESTONE_MAP : DeviceLogEvent → Bool
  | .deviceCreated => false
  | .deviceEdited => false
  | .assigned => true
  | .clientAssigned => true
  | .shipOutboundInitiated => false
  | .shipOutboundCompleted => false
  | .returnShipInitiated => false
  | .returnReceived => true
  | .assignmentCompleted => true
  | .statusChanged => true
  | .supportOpened => true
  | .supportResolved => true
  | .supportAutoClosed => false
  | .extensionRequested => false
  | .extensionApproved => false
  | .extensionRejected => false
  | .handoverRequested => false
  | .handoverAccepted => true
  | .handoverRejected => false
  | .handoverCancelled => false
  | .handoverCompleted => true
  | .markedLost => true
  | .retired => true
  | .returnedToClient => true
  | .swappedOut => false
  | .swappedIn => false

namespace DeviceLogService

/-- The keyword arguments of `append`. -/
structure AppendArgs where
  itemId : UUID
  eventType : DeviceLogEvent
  actorId : Option UUID
  actorRole : ActorRole
  requestId : Option UUID := none
  supportRequestId : Option UUID := none
  extensionRequestId : Option UUID := none
  handoverRequestId : Option UUID := none
  fromValue : Option String := none
  toValue : Option String := none
  note : Option String := none
  metadata : Option Metadata := none
  isMilestone : Option Bool := none

/-- The row that `append` builds. -/
def AppendArgs.row (a : AppendArgs) : DeviceLog where
  itemId := a.itemId
  eventType := a.eventType
  actorId := a.actorId
  actorRole := a.actorRole
  requestId := a.requestId
  supportRequestId := a.supportRequestId
  extensionRequestId := a.extensionRequestId
  handoverRequestId := a.handoverRequestId
  fromValue := a.fromValue
  toValue := a.toValue
  note := a.note
  logMetadata := a.metadata.getD []
  isMilestone := a.isMilestone.getD (EVENT_MILESTONE_MAP a.eventType)

def append (a : AppendArgs) : Service DeviceLog := DeviceLogRepository.create a.row

/-- The row as it is stored. -/
def AppendArgs.written (a : AppendArgs) (ctx : Ctx) : DeviceLog :=
  { a.row with occurredAt := ctx.txTime }

structure DeviceLogEntry extends DeviceLog where
  id : Nat
  actorName : Option String
  deriving DecidableEq

def entryFromRow (row : DeviceLogRepository.DeviceLogRow) : DeviceLogEntry :=
  { row.deviceLog with id := row.id, actorName := row.actorName }

def getTimeline (itemId : UUID) (milestonesOnly : Bool) (order : OrderBy DeviceLogRepository.timeOrder) :
    Service (List DeviceLogEntry) := do
  let rows ← DeviceLogRepository.listForItem itemId milestonesOnly order
  return rows.map entryFromRow

variable {ctx : Ctx} {db db' : Db} {a : AppendArgs}

@[simp] theorem runs_append {row : DeviceLog} : (append a).Runs ctx db row db' ↔
    db.DeviceLogIntegral a.row ∧ row = a.written ctx ∧ db' = db.appendLog row :=
  DeviceLogRepository.runs_create

theorem fails_append {e : Failure} :
    (append a).Fails ctx db e ↔ ¬ db.DeviceLogIntegral a.row ∧ e = .integrityError :=
  DeviceLogRepository.fails_create

@[simp] theorem runs_getTimeline {itemId : UUID} {milestonesOnly : Bool}
    {order : OrderBy DeviceLogRepository.timeOrder} {entries : List DeviceLogEntry} :
    (getTimeline itemId milestonesOnly order).Runs ctx db entries db' ↔
      entries = (order.sort (DeviceLogRepository.rowsForItem itemId milestonesOnly db)).map entryFromRow ∧
        db' = db := by
  simp [getTimeline, and_comm]

end DeviceLogService

end AssetPilot
