import AssetPilot.Repositories.Counts

/-!
# The dashboard

`DashboardService.get_summary` (`app/services/dashboard_service.py`): the figures of the landing screen.
-/

namespace AssetPilot

open Txn

namespace DashboardService

def _STATUS_BREAKDOWN_STATUSES : List DeviceStatus :=
  [.available, .assigned, .underRepair, .maintenance, .shippingPending, .returnShippingPending, .lost, .retired]

structure DashboardSummary where
  statusBreakdown : List (String × Nat)
  pendingRequestsCount : Nat
  openSupportCount : Nat
  activeHandoversCount : Nat
  pendingExtensionsCount : Nat
  deriving DecidableEq

/-- The dictionary of `status.value` and `status_counts.get(status, 0)`. -/
def statusBreakdown (statusCounts : List (DeviceStatus × Nat)) : List (String × Nat) :=
  _STATUS_BREAKDOWN_STATUSES.map fun status => (status.value, (statusCounts.lookup status).getD 0)

def getSummary : Service DashboardSummary := do
  let statusCounts ← ItemRepository.countByStatus
  let pendingRequestsCount ← RequestRepository.countPending
  let openSupportCount ← SupportRequestRepository.countOpen
  let activeHandoversCount ← HandoverRequestRepository.countActive
  let pendingExtensionsCount ← ExtensionRequestRepository.countPending
  return ⟨statusBreakdown statusCounts, pendingRequestsCount, openSupportCount, activeHandoversCount,
    pendingExtensionsCount⟩

theorem runs_getSummary {ctx : Ctx} {db db' : Db} {summary : DashboardSummary} :
    getSummary.Runs ctx db summary db' ↔
      summary.statusBreakdown = _STATUS_BREAKDOWN_STATUSES.map (fun status =>
        (status.value, db.items.rows.countP fun i => i.status = status)) ∧
      summary.pendingRequestsCount =
        (db.requests.rows.countP fun r => r.status ∈ [RequestStatus.pendingMgrApproval, .pendingItApproval]) ∧
      summary.openSupportCount =
        (db.supportRequests.rows.countP fun t => t.status ∈ SupportRequestRepository._OPEN_STATUSES) ∧
      summary.activeHandoversCount = (db.handoverRequests.rows.countP fun h => h.status = .accepted) ∧
      summary.pendingExtensionsCount = (db.extensionRequests.rows.countP fun x => x.status = .pending) ∧
      db' = db := by
  obtain ⟨breakdown, requests, support, handovers, extensions⟩ := summary
  simp only [getSummary, statusBreakdown, runs_bind, runs_pure, ItemRepository.runs_countByStatus,
    RequestRepository.runs_countPending, SupportRequestRepository.runs_countOpen,
    HandoverRequestRepository.runs_countActive, ExtensionRequestRepository.runs_countPending,
    DashboardSummary.mk.injEq]
  constructor
  · rintro ⟨_, _, ⟨rfl, rfl⟩, _, _, ⟨rfl, rfl⟩, _, _, ⟨rfl, rfl⟩, _, _, ⟨rfl, rfl⟩, _, _, ⟨rfl, rfl⟩,
      ⟨rfl, rfl, rfl, rfl, rfl⟩, rfl⟩
    exact ⟨by simp only [Relational.getD_lookup_groupCounts], rfl, rfl, rfl, rfl, rfl⟩
  · rintro ⟨rfl, rfl, rfl, rfl, rfl, rfl⟩
    refine ⟨_, _, ⟨rfl, rfl⟩, _, _, ⟨rfl, rfl⟩, _, _, ⟨rfl, rfl⟩, _, _, ⟨rfl, rfl⟩, _, _, ⟨rfl, rfl⟩,
      ⟨?_, rfl, rfl, rfl, rfl⟩, rfl⟩
    simp only [Relational.getD_lookup_groupCounts]

end DashboardService

end AssetPilot
