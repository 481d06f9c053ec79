import AssetPilot.Lib.Grouping
import AssetPilot.Repositories.Tables

/-!
# The counts

The aggregate queries behind the figures of the dashboard, which count the rows of one table without a join.
-/

namespace AssetPilot

open Relational Txn

variable {ctx : Ctx} {db db' : Db} {n : Nat}

/-- `SELECT count(*) FROM … WHERE …`. -/
def countWhere {α : Type} [Keyed α UUID] (table : Db → Table α) (condition : α → Prop) [DecidablePred condition] :
    Service Nat := do
  let db ← get
  return (table db).rows.countP fun row => condition row

theorem runs_countWhere {α : Type} [Keyed α UUID] {table : Db → Table α} {condition : α → Prop}
    [DecidablePred condition] : (countWhere table condition).Runs ctx db n db' ↔
      n = ((table db).rows.countP fun row => condition row) ∧ db' = db := by
  simp [countWhere, and_comm]

/-- The dictionary that `count_by_status` builds. -/
def ItemRepository.countByStatus : Service (List (DeviceStatus × Nat)) := do
  let db ← get
  return groupCounts Item.status db.items.rows

@[simp] theorem ItemRepository.runs_countByStatus {counts : List (DeviceStatus × Nat)} :
    countByStatus.Runs ctx db counts db' ↔ counts = groupCounts Item.status db.items.rows ∧ db' = db := by
  simp [countByStatus, and_comm]

def RequestRepository.countPending : Service Nat :=
  countWhere Db.requests fun r => r.status ∈ [RequestStatus.pendingMgrApproval, .pendingItApproval]

def SupportRequestRepository.countOpen : Service Nat :=
  countWhere Db.supportRequests fun t => t.status ∈ _OPEN_STATUSES

def HandoverRequestRepository.countActive : Service Nat :=
  countWhere Db.handoverRequests fun h => h.status = .accepted

def ExtensionRequestRepository.countPending : Service Nat :=
  countWhere Db.extensionRequests fun x => x.status = .pending

@[simp] theorem RequestRepository.runs_countPending : countPending.Runs ctx db n db' ↔
    n = (db.requests.rows.countP fun r => r.status ∈ [RequestStatus.pendingMgrApproval, .pendingItApproval]) ∧
      db' = db :=
  runs_countWhere

@[simp] theorem SupportRequestRepository.runs_countOpen : countOpen.Runs ctx db n db' ↔
    n = (db.supportRequests.rows.countP fun t => t.status ∈ _OPEN_STATUSES) ∧ db' = db :=
  runs_countWhere

@[simp] theorem HandoverRequestRepository.runs_countActive : countActive.Runs ctx db n db' ↔
    n = (db.handoverRequests.rows.countP fun h => h.status = .accepted) ∧ db' = db :=
  runs_countWhere

@[simp] theorem ExtensionRequestRepository.runs_countPending : countPending.Runs ctx db n db' ↔
    n = (db.extensionRequests.rows.countP fun x => x.status = .pending) ∧ db' = db :=
  runs_countWhere

end AssetPilot
