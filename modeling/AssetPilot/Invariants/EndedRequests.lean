import AssetPilot.Effects.Inversion
import AssetPilot.Invariants.Ownership

/-!
# Ended requests are permanent records

Only the request service names the terminal statuses. The shipping, support and extension services load a
request by its id, or through a ticket or an extension, and write it whatever its status is; a run that
calls them on open requests keeps every ended request as it was.
-/

namespace AssetPilot

open Relational Custody System Txn

variable {ctx : Ctx} {db db' : Db} {q k : UUID} {r r' x : Request}

/-- Every ended request of `db` is in `db'` with the same columns other than `updated_at`. -/
def EndedKept (db db' : Db) : Prop :=
  ∀ q r, db.requests.get? q = some r → r.status ∈ _TERMINAL_STATUSES →
    ∃ updatedAt, db'.requests.get? q = some { r with updatedAt := updatedAt }

/-- The call writes no ended request, except with the values that it has. -/
def Op.SparesEnded (db : Db) : Op → Prop
  | .ship requestId _ _ => ∀ r ∈ db.requests.get? requestId, r.isWfh = true →
      ∀ i ∈ r.assignedItemId.bind db.items.get?, i.status = .assigned → r.status ∉ _TERMINAL_STATUSES
  | .confirmDelivery requestId _ => ∀ r ∈ db.requests.get? requestId,
      ∀ i ∈ r.assignedItemId.bind db.items.get?, i.status = .shippingPending →
        r.status ∉ _TERMINAL_STATUSES
  | .completeReturn requestId _ _ => ∀ r ∈ db.requests.get? requestId,
      ∀ i ∈ r.assignedItemId.bind db.items.get?, i.status ∈ ShippingService._RETURN_ELIGIBLE_STATUSES →
        r.status ∉ _TERMINAL_STATUSES
  | .resolve ticketId .swapped _ swappedToItemId _ _ =>
      ∀ t ∈ db.supportRequests.get? ticketId, t.status ≠ .resolved →
        ∀ i ∈ db.items.get? t.itemId, ∀ n ∈ swappedToItemId.bind db.items.get?, SwapTarget i n →
          ∀ r ∈ db.tiedRequest t, r.status ∈ _TERMINAL_STATUSES → r.assignedItemId = swappedToItemId
  | .resolve ticketId .markedLost _ _ _ _ => ∀ t ∈ db.supportRequests.get? ticketId,
      t.status ≠ .resolved → ∀ r ∈ db.tiedRequest t, r.status ∉ _TERMINAL_STATUSES
  | .approveExtension extensionId _ _ => ∀ x ∈ db.extensionRequests.get? extensionId,
      x.status = .pending →
        x.mgrApprovalStatus ∈ ExtensionService._MGR_APPROVAL_STATUSES_ALLOWING_IT_APPROVAL →
          ∀ r ∈ db.requests.get? x.originalRequestId, r.assignedItemId ≠ none →
            r.status ∈ _TERMINAL_STATUSES → r.assignedTo = some x.extendedTo
  | _ => True

def Event.SparesEnded (db : Db) : Event → Prop
  | .service _ op => op.SparesEnded db
  | .portal _ _ => True

/-! ### One event -/

theorem Op.SparesEnded.rewrites {op : Op} (hspares : op.SparesEnded db) (hr : db.requests.get? r.id = some r)
    (h : op.Rewrites ctx db r r') (hended : r.status ∈ _TERMINAL_STATUSES) : r' = r := by
  cases h with
  | updateBookingRange hstatus | assign hstatus | reject hstatus | escalateToManager hstatus =>
    rw [hstatus] at hended
    exact absurd hended (by decide)
  | cancel hopen => exact absurd hended hopen
  | ship hwfh hdevice hitem hstatus =>
    exact absurd hended (hspares r hr hwfh _ (bind_eq_some hdevice hitem) hstatus)
  | confirmDelivery hdevice hitem hstatus =>
    exact absurd hended (hspares r hr _ (bind_eq_some hdevice hitem) hstatus)
  | completeReturn hdevice hitem hstatus =>
    exact absurd hended (hspares r hr _ (bind_eq_some hdevice hitem) hstatus)
  | @swapped _ _ _ newId _ _ _ _ newItem hticket hopen htied hitem hnew htarget =>
    have hsame := hspares _ hticket hopen _ hitem _ hnew htarget r (bind_eq_some htied hr) hended
    have hid : newItem.id = newId := Table.get?_key hnew
    rw [hid, ← hsame]
  | markedLost hticket hopen htied =>
    exact absurd hended (hspares _ hticket hopen r (bind_eq_some htied hr))
  | approveExtension hextension hpending hmgr hparent hdevice =>
    rw [← hspares _ hextension hpending hmgr r (hparent ▸ hr) (hdevice ▸ Option.some_ne_none _) hended]

theorem PortalStep.Rewrites.not_ended {step : PortalStep} (h : step.Rewrites db r r') :
    r.status ∉ _TERMINAL_STATUSES := by
  cases h with
  | submitRequest hstatus => exact hstatus ▸ by decide
  | decideRequest hstatus => exact hstatus ▸ by decide
  | initiateReturn _ _ hguard => exact hguard.2.1 ▸ by decide

theorem Event.SparesEnded.rewrites {e : Event} (hspares : e.SparesEnded db)
    (hr : db.requests.get? r.id = some r) (h : e.Rewrites db r r') (hended : r.status ∈ _TERMINAL_STATUSES) :
    r' = r := by
  cases h with
  | service h => exact Op.SparesEnded.rewrites hspares hr h hended
  | portal h => exact absurd hended h.not_ended

theorem Event.SparesEnded.kept {e : Event} (hspares : e.SparesEnded db) (h : e.RequestsStep db db')
    (hx : db.requests.get? q = some x) (hended : x.status ∈ _TERMINAL_STATUSES) :
    ∃ updatedAt, db'.requests.get? q = some { x with updatedAt := updatedAt } := by
  rcases h.stays hx with hx' | ⟨r', u, hw, hr'⟩
  · exact ⟨x.updatedAt, hx'⟩
  · obtain rfl : x.id = q := Table.get?_key hx
    obtain rfl := hspares.rewrites hx hw hended
    exact ⟨u, hr'⟩

/-! ### Runs -/

/-- **Ended requests are permanent**: a run that spares them keeps every one of them, and terminal
statuses are absorbing. -/
theorem endedKept_of_run (run : Run Step (fun db e => e.SparesEnded db) db db') : EndedKept db db' := by
  intro q x hx hended
  refine run.inv (P := fun s => ∃ updatedAt, s.requests.get? q = some { x with updatedAt := updatedAt })
    (fun s e s' hs hspares hstep => ?_) ⟨x.updatedAt, hx⟩
  rcases hstep.cases with rfl | hcommits
  · exact hs
  · obtain ⟨u, hs⟩ := hs
    obtain ⟨u', hs'⟩ := hspares.kept hcommits.effects.requests hs hended
    exact ⟨u', hs'⟩

/-- Request 2 is completed, and laptop 2 is handed to employee 1. -/
theorem endedKept_of_run_reassign : EndedKept (Sample.after [Sample.call (.completeReturn 2 .available 9)])
    (Sample.after [Sample.call (.completeReturn 2 .available 9), Sample.call (.assign 1 2 0 10 false 9)]) :=
  endedKept_of_run (.step .refl (Sample.call (.assign 1 2 0 10 false 9)) trivial rfl)

/-- An extension of request 2 is filed, and request 2 is completed. -/
def Sample.completedWithExtension : Db :=
  after [.portal Sample.ctx (.fileExtension
      { id := 1, originalRequestId := 2, requesterId := 2, currentAssignedTo := 10, extendedTo := 20 }),
    call (.completeReturn 2 .available 9)]

/-- Approving the extension then moves the end of the completed assignment. -/
theorem approveExtension_not_endedKept :
    ¬ EndedKept Sample.completedWithExtension
      ((Sample.call (.approveExtension 1 none 9)).exec Sample.completedWithExtension) := by
  intro h
  obtain ⟨updatedAt, hrow⟩ := h 2 { Sample.request 2 2 .completed (some 2) with
    completedAt := some 5, completedBy := some 9, completedNextStatus := some .available, updatedAt := 5 }
    rfl (by decide)
  have hto : (((Sample.call (.approveExtension 1 none 9)).exec
      Sample.completedWithExtension).requests.get? 2).map Request.assignedTo = some (some 10) := by
    rw [hrow]
    rfl
  exact absurd hto (by decide)

end AssetPilot
