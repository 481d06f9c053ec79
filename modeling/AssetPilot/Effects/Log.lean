import AssetPilot.Operations

/-!
# What an event appends to the log

`Op.logs` lists the kinds of row that a call writes when it commits; the steps of the employees' side write
none.
-/

namespace AssetPilot

open Relational Txn
open DeviceLogService (AppendArgs)

variable {ctx : Ctx} {db db' db'' : Db} {e : Event} {kinds kinds' : List DeviceLogEvent}

/-- Between `db` and `db'` rows of these kinds were appended, and the rows before them are kept. -/
def Appends (kinds : List DeviceLogEvent) (db db' : Db) : Prop :=
  ∃ rows, db'.deviceLog = db.deviceLog ++ rows ∧ ∀ l ∈ rows, l.eventType ∈ kinds

namespace Appends

theorem none (hlog : db'.deviceLog = db.deviceLog) : Appends kinds db db' :=
  ⟨[], by rw [hlog, List.append_nil], fun _ hl => absurd hl List.not_mem_nil⟩

theorem one {a : AppendArgs} (hlog : db'.deviceLog = db.deviceLog ++ [a.written ctx])
    (h : a.eventType ∈ kinds) : Appends kinds db db' :=
  ⟨[a.written ctx], hlog, fun _ hl => List.mem_singleton.mp hl ▸ h⟩

theorem trans (h : Appends kinds db db') (h' : Appends kinds db' db'') : Appends kinds db db'' := by
  obtain ⟨rows, hlog, hrows⟩ := h
  obtain ⟨rows', hlog', hrows'⟩ := h'
  refine ⟨rows ++ rows', by rw [hlog', hlog, List.append_assoc], fun l hl => ?_⟩
  exact (List.mem_append.mp hl).elim (hrows l) (hrows' l)

theorem mono (h : Appends kinds db db') (hsub : kinds ⊆ kinds') : Appends kinds' db db' := by
  obtain ⟨rows, hlog, hrows⟩ := h
  exact ⟨rows, hlog, fun l hl => hsub (hrows l hl)⟩

end Appends

/-- The kinds of row that a resolution logs for its device. -/
def _RESOLUTION_EVENTS : SupportResolution → List DeviceLogEvent
  | .remoteResolved => []
  | .repairedInPlace => [.statusChanged]
  | .swapped => [.swappedOut, .swappedIn]
  | .markedLost => [.markedLost]

/-- The kinds of row that a call may append. -/
def Op.logs : Op → List DeviceLogEvent
  | .createItem .. => [.deviceCreated]
  | .editItem .. => [.deviceEdited]
  | .changeStatus _ status _ _ => [InventoryService._STATUS_EVENT_MAP status]
  | .assign .. => [.assigned]
  | .directAssign .. => [.clientAssigned]
  | .ship .. => [.shipOutboundInitiated]
  | .confirmDelivery .. => [.shipOutboundCompleted]
  | .completeReturn .. => [.returnReceived, .assignmentCompleted, .supportAutoClosed]
  | .start .. => [.statusChanged]
  | .resolve _ resolution _ _ _ _ => _RESOLUTION_EVENTS resolution ++ [.supportResolved]
  | .approveExtension .. => [.extensionApproved]
  | .rejectExtension .. => [.extensionRejected]
  | .updateBookingRange .. | .reject .. | .cancel .. | .escalateToManager .. | .createUser .. | .changeRole ..
  | .deactivate .. | .activate .. | .register .. => []

/-! ### The operations -/

theorem ShippingService.completeReturn_appends {requestId actorId : UUID} {next : DeviceStatus} {row : Request}
    (h : (completeReturn requestId next actorId).Runs ctx db row db') :
    Appends [.returnReceived, .assignmentCompleted, .supportAutoClosed] db db' := by
  obtain ⟨r, -, i, -, -, r', -, -, i', -, -, l, rfl, -, l', rfl, -, ⟨_, hclose⟩, -⟩ := runs_completeReturn.mp h
  obtain ⟨ts, -, hclosed⟩ := runs_autoCloseOpenSupport hclose
  refine .trans ?_ ⟨_, hclosed.deviceLog, fun l hl => ?_⟩
  · exact .trans (.one rfl List.mem_cons_self) (.one rfl (List.mem_cons_of_mem _ List.mem_cons_self))
  · obtain ⟨t, -, rfl⟩ := List.mem_map.mp hl
    exact List.mem_cons_of_mem _ (List.mem_cons_of_mem _ List.mem_cons_self)

namespace SupportService

variable {ticketId actorId : UUID} {row : SupportRequest}

theorem start_appends (h : (start ticketId actorId).Runs ctx db row db') : Appends [.statusChanged] db db' := by
  obtain ⟨t, -, -, t', -, -, ⟨_, hrepair⟩, -⟩ := runs_start.mp h
  rcases runs_startRepair.mp hrepair with ⟨-, rfl⟩ | ⟨-, i, -, i', -, -, l, rfl, -, rfl⟩
  · exact .none rfl
  · exact .one rfl (List.mem_singleton_self _)

theorem applyResolution_appends {ticket : SupportRequest} {item : Item} {resolution : SupportResolution}
    {newId : Option UUID} {next : Option DeviceStatus} {u : Unit}
    (h : (applyResolution ticket item resolution newId next actorId).Runs ctx db u db') :
    Appends (_RESOLUTION_EVENTS resolution) db db' := by
  cases resolution with
  | remoteResolved =>
    simp only [applyResolution, runs_pure] at h
    exact .none (h.2 ▸ rfl)
  | repairedInPlace =>
    obtain ⟨-, i', -, -, l, rfl, -, rfl⟩ := runs_repairInPlace.mp h
    exact .one rfl (List.mem_singleton_self _)
  | swapped =>
    simp only [applyResolution, runs_bind, runs_orRaise] at h
    obtain ⟨n, _, ⟨-, rfl⟩, s, _, ⟨-, rfl⟩, h⟩ := h
    obtain ⟨-, p, -, i, -, -, -, r, -, r', -, -, db₁, rfl, o', -, -, db₂, rfl, n', -, -, l, rfl, -, l', rfl, -,
      rfl⟩ := runs_swap.mp h
    exact .trans (.one rfl List.mem_cons_self) (.one rfl (List.mem_cons_of_mem _ List.mem_cons_self))
  | markedLost =>
    obtain ⟨p, -, r, -, i', -, -, r', -, -, l, rfl, -, rfl⟩ := runs_markLost.mp h
    exact .one rfl (List.mem_singleton_self _)

theorem resolve_appends {resolution : SupportResolution} {note : Option String} {newId : Option UUID}
    {next : Option DeviceStatus} (h : (resolve ticketId resolution note newId next actorId).Runs ctx db row db') :
    Appends (_RESOLUTION_EVENTS resolution ++ [.supportResolved]) db db' := by
  obtain ⟨t, -, -, i, -, _, db₁, happly, t', -, -, -, -, rfl⟩ := runs_resolve.mp h
  refine .trans ((applyResolution_appends happly).mono (List.subset_append_left ..)) ?_
  exact .one rfl (List.mem_append_right _ (List.mem_singleton_self _))

end SupportService

theorem InventoryService.editItem_appends {itemId actorId : UUID} {updates : ItemUpdates} {row : Item}
    (h : (editItem itemId updates actorId).Runs ctx db row db') : Appends [.deviceEdited] db db' := by
  obtain ⟨i, -, -, i', -, -, ⟨_, hlog⟩, -⟩ := runs_editItem.mp h
  rcases runs_logChanges.mp hlog with ⟨-, rfl⟩ | ⟨-, -, rfl⟩
  · exact .none rfl
  · exact .one rfl (List.mem_singleton_self _)

/-- **What a committed call appends.** -/
theorem Op.appends {op : Op} (h : op.run.Runs ctx db () db') : Appends op.logs db db' := by
  by_cases hleaves : op.leavesItems = true
  · exact .none (Op.items_of_leavesItems hleaves h).2
  cases op <;> obtain ⟨row, h⟩ := runs_discard.mp h
  case createItem =>
    obtain ⟨-, -, -, i, -, -, -, -, rfl⟩ := InventoryService.runs_createItem.mp h
    exact .one rfl (List.mem_singleton_self _)
  case editItem => exact InventoryService.editItem_appends h
  case changeStatus =>
    obtain ⟨i, -, i', -, -, l, rfl, -, -, rfl⟩ := InventoryService.runs_changeStatus.mp h
    exact .one rfl (List.mem_singleton_self _)
  case assign =>
    obtain ⟨r, -, -, i, -, -, -, -, r', -, -, i', -, -, -, -, rfl⟩ := AssignmentService.runs_assign.mp h
    exact .one rfl (List.mem_singleton_self _)
  case directAssign =>
    obtain ⟨i, -, -, -, -, u, -, -, r', -, -, -, i', -, -, -, -, rfl⟩ := AssignmentService.runs_directAssign.mp h
    exact .one rfl (List.mem_singleton_self _)
  case ship =>
    obtain ⟨r, -, -, i, -, -, r', -, -, i', -, -, l, rfl, -, -, rfl⟩ := ShippingService.runs_ship.mp h
    exact .one rfl (List.mem_singleton_self _)
  case confirmDelivery =>
    obtain ⟨r, -, i, -, -, r', -, -, i', -, -, l, rfl, -, -, rfl⟩ := ShippingService.runs_confirmDelivery.mp h
    exact .one rfl (List.mem_singleton_self _)
  case completeReturn => exact ShippingService.completeReturn_appends h
  case start => exact SupportService.start_appends h
  case resolve => exact SupportService.resolve_appends h
  case approveExtension =>
    obtain ⟨x, -, -, -, r, -, r', -, -, x', -, -, _, -, l, rfl, -, -, rfl⟩ := ExtensionService.runs_approve.mp h
    exact .one rfl (List.mem_singleton_self _)
  case rejectExtension =>
    obtain ⟨x, -, -, r, -, x', -, -, _, -, l, rfl, -, -, rfl⟩ := ExtensionService.runs_reject.mp h
    exact .one rfl (List.mem_singleton_self _)
  all_goals exact absurd rfl hleaves

/-- The kinds of row that an event may append. -/
def Event.logs : Event → List DeviceLogEvent
  | .service _ op => op.logs
  | .portal .. => []

/-- **What a committed event appends.** -/
theorem Event.Commits.appends (h : e.Commits db db') : Appends e.logs db db' := by
  cases h with
  | service h => exact Op.appends h
  | portal h => exact .none (PortalStep.frame h).1

end AssetPilot
