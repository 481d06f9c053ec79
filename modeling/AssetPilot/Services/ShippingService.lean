import AssetPilot.Services.RequestService

/-!
# Shipping and returns

`app/services/shipping_service.py`: outbound shipping of work-from-home requests, delivery, and the
return of a device with the auto-close cascade over its open support tickets.
-/

namespace AssetPilot

open Relational Txn
open SQLAlchemyRepository (flushed)
open DeviceLogService (AppendArgs append)

namespace ShippingService

structure ShippingQueueResult extends Request where
  itemName : String
  requesterName : String
  deriving DecidableEq

def queueResultFrom (row : RequestRepository.ShippingQueueRow) : ShippingQueueResult :=
  { row.request with itemName := row.itemName, requesterName := row.requesterName }

def listOutbound (order : OrderBy RequestRepository.queueOrder) : Service (List ShippingQueueResult) := do
  let rows ← RequestRepository.listOutboundShippingQueue order
  return rows.map queueResultFrom

def listReturns (order : OrderBy RequestRepository.queueOrder) : Service (List ShippingQueueResult) := do
  let rows ← RequestRepository.listReturnShippingQueue order
  return rows.map queueResultFrom

def _RETURN_ELIGIBLE_STATUSES : List DeviceStatus := [.assigned, .returnShippingPending]

def getRequestOr404 (requestId : UUID) : Service Request := do
  let request ← RequestRepository.getById requestId
  orRaise request (notFoundException "Request not found.")

def getAssignedItemOr404 (request : Request) : Service Item := do
  let assignedItemId ← orRaise request.assignedItemId
    (conflictException "This request has no assigned device.")
  let item ← ItemRepository.getById assignedItemId
  orRaise item (notFoundException "Item not found.")

/-- The log entry of a status change that a request brings about. -/
def shippingLog (event : DeviceLogEvent) (itemId requestId actorId : UUID) (fromStatus toStatus : DeviceStatus)
    (metadata : Option Metadata) : AppendArgs where
  itemId := itemId
  eventType := event
  actorId := some actorId
  actorRole := .itAdmin
  requestId := some requestId
  fromValue := some fromStatus.value
  toValue := some toStatus.value
  metadata := metadata

/-- What `ship` sets on the request. -/
def shippedRequest (request : Request) (shipTrackingUrl : String) (now : Datetime) : Request :=
  { request with shipTrackingUrl := some shipTrackingUrl, shipInitiatedAt := some now }

def ship (requestId : UUID) (shipTrackingUrl : String) (actorId : UUID) : Service Request := do
  let request ← getRequestOr404 requestId
  raiseIf (¬ request.isWfh) (validationException "Only WFH requests can be shipped.")
  let item ← getAssignedItemOr404 request
  raiseIf (item.status ≠ .assigned) (conflictException "Only assigned devices can be marked shipped.")
  let now ← utcNow 0
  let updatedRequest ← RequestRepository.update (shippedRequest request shipTrackingUrl now)
  let _ ← ItemRepository.update (item.setStatus .shippingPending)
  let _ ← append (shippingLog .shipOutboundInitiated item.id updatedRequest.id actorId
    .assigned .shippingPending (some [("ship_tracking_url", .text shipTrackingUrl)]))
  return updatedRequest

/-- What `confirm_delivery` sets on the request. -/
def deliveredRequest (request : Request) (now : Datetime) : Request :=
  { request with shipCompletedAt := some now }

def confirmDelivery (requestId actorId : UUID) : Service Request := do
  let request ← getRequestOr404 requestId
  let item ← getAssignedItemOr404 request
  raiseIf (item.status ≠ .shippingPending)
    (conflictException "Only devices currently shipping_pending can have delivery confirmed.")
  let now ← utcNow 0
  let updatedRequest ← RequestRepository.update (deliveredRequest request now)
  let _ ← ItemRepository.update (item.setStatus .assigned)
  let _ ← append (shippingLog .shipOutboundCompleted item.id updatedRequest.id actorId
    .shippingPending .assigned none)
  return updatedRequest

/-- What `_auto_close_open_support` sets on a ticket. -/
def closedTicket (ticket : SupportRequest) (now : Datetime) : SupportRequest :=
  { ticket with status := .resolved, autoClosed := true, resolvedAt := some now }

/-- The log entry of an automatically closed ticket. -/
def closedLog (itemId ticketId : UUID) : AppendArgs where
  itemId := itemId
  eventType := .supportAutoClosed
  actorId := none
  actorRole := .system
  supportRequestId := some ticketId

/-- One turn of the loop of `_auto_close_open_support`; the loop reads the clock once a turn. -/
def closeTicket (itemId : UUID) (k : Nat) (ticket : SupportRequest) : Service Unit := do
  let now ← utcNow k
  let _ ← SupportRequestRepository.update (closedTicket ticket now)
  let _ ← append (closedLog itemId ticket.id)

def autoCloseOpenSupport (itemId : UUID) : Service Unit := do
  let openTickets ← SupportRequestRepository.listOpenForItem itemId
  forEach (closeTicket itemId) 1 openTickets

/-- What `complete_return` sets on the request. -/
def completedRequest (request : Request) (nextStatus : Option DeviceStatus) (actorId : UUID)
    (now : Datetime) : Request :=
  { request with
    status := .completed
    completedAt := some now
    completedBy := some actorId
    completedNextStatus := nextStatus }

/-- The log entry that closes the assignment. -/
def completionLog (itemId requestId actorId : UUID) : AppendArgs where
  itemId := itemId
  eventType := .assignmentCompleted
  actorId := some actorId
  actorRole := .itAdmin
  requestId := some requestId

def completeReturn (requestId : UUID) (nextStatus : DeviceStatus) (actorId : UUID) :
    Service Request := do
  let request ← getRequestOr404 requestId
  let item ← getAssignedItemOr404 request
  raiseIf (item.status ∉ _RETURN_ELIGIBLE_STATUSES)
    (conflictException <| "Device must be assigned (on-site) or return_shipping_pending (WFH) to " ++
      "complete a return.")
  let now ← utcNow 0
  let updatedRequest ← RequestRepository.update (completedRequest request (some nextStatus) actorId now)
  let updatedItem ← ItemRepository.update (item.release nextStatus)
  let _ ← append (shippingLog .returnReceived updatedItem.id updatedRequest.id actorId
    item.status nextStatus none)
  let _ ← append (completionLog updatedItem.id updatedRequest.id actorId)
  autoCloseOpenSupport updatedItem.id
  return updatedRequest

/-! ### Inversion -/

variable {ctx : Ctx} {db db' : Db} {requestId actorId : UUID} {row : Request}

@[simp] theorem runs_listOutbound {order : OrderBy RequestRepository.queueOrder}
    {queue : List ShippingQueueResult} : (listOutbound order).Runs ctx db queue db' ↔
      queue = (order.sort ((RequestRepository.outboundQuery db).rows db.requests)).map queueResultFrom ∧
        db' = db := by
  simp [listOutbound, and_comm]

@[simp] theorem runs_listReturns {order : OrderBy RequestRepository.queueOrder}
    {queue : List ShippingQueueResult} : (listReturns order).Runs ctx db queue db' ↔
      queue = (order.sort ((RequestRepository.returnQuery db).rows db.requests)).map queueResultFrom ∧
        db' = db := by
  simp [listReturns, and_comm]

@[simp] theorem runs_getRequestOr404 {id : UUID} {r : Request} :
    (getRequestOr404 id).Runs ctx db r db' ↔ db.requests.get? id = some r ∧ db' = db := by
  simp [getRequestOr404, and_comm, eq_comm]

@[simp] theorem runs_getAssignedItemOr404 {r : Request} {i : Item} :
    (getAssignedItemOr404 r).Runs ctx db i db' ↔
      (∃ itemId, r.assignedItemId = some itemId ∧ db.items.get? itemId = some i) ∧ db' = db := by
  simp only [getAssignedItemOr404, runs_bind, runs_orRaise, ItemRepository.runs_getById]
  grind

theorem runs_ship {url : String} : (ship requestId url actorId).Runs ctx db row db' ↔
    ∃ request, db.requests.get? requestId = some request ∧ request.isWfh = true ∧
      ∃ item, (∃ itemId, request.assignedItemId = some itemId ∧ db.items.get? itemId = some item) ∧
      item.status = .assigned ∧
      ∃ request', request' = flushed ctx db (shippedRequest request url (ctx.clock 0)) ∧
        Model.constraints db request' = .ok () ∧
      ∃ item', item' = flushed ctx (db.setRequest request') (item.setStatus .shippingPending) ∧
        Model.constraints (db.setRequest request') item' = .ok () ∧
      ∃ log, log = shippingLog .shipOutboundInitiated item.id request'.id actorId
          .assigned .shippingPending (some [("ship_tracking_url", .text url)]) ∧
        ((db.setRequest request').setItem item').DeviceLogIntegral log.row ∧
      row = request' ∧
      db' = ((db.setRequest request').setItem item').appendLog (log.written ctx) := by
  simp [ship, and_assoc]

theorem runs_confirmDelivery : (confirmDelivery requestId actorId).Runs ctx db row db' ↔
    ∃ request, db.requests.get? requestId = some request ∧
      ∃ item, (∃ itemId, request.assignedItemId = some itemId ∧ db.items.get? itemId = some item) ∧
      item.status = .shippingPending ∧
      ∃ request', request' = flushed ctx db (deliveredRequest request (ctx.clock 0)) ∧
        Model.constraints db request' = .ok () ∧
      ∃ item', item' = flushed ctx (db.setRequest request') (item.setStatus .assigned) ∧
        Model.constraints (db.setRequest request') item' = .ok () ∧
      ∃ log, log = shippingLog .shipOutboundCompleted item.id request'.id actorId
          .shippingPending .assigned none ∧
        ((db.setRequest request').setItem item').DeviceLogIntegral log.row ∧
      row = request' ∧
      db' = ((db.setRequest request').setItem item').appendLog (log.written ctx) := by
  simp [confirmDelivery, and_assoc]

theorem runs_closeTicket {itemId : UUID} {k : Nat} {ticket : SupportRequest} {u : Unit} :
    (closeTicket itemId k ticket).Runs ctx db u db' ↔
      ∃ ticket', ticket' = flushed ctx db (closedTicket ticket (ctx.clock k)) ∧
        Model.constraints db ticket' = .ok () ∧
      (db.setSupportRequest ticket').DeviceLogIntegral (closedLog itemId ticket.id).row ∧
      db' = (db.setSupportRequest ticket').appendLog ((closedLog itemId ticket.id).written ctx) := by
  simp [closeTicket]

/-- The ticket is closed in `db`, at some time. -/
def IsClosed (db : Db) (t : SupportRequest) : Prop :=
  ∃ now updatedAt, db.supportRequests.get? t.id =
    some { closedTicket t now with updatedAt := updatedAt }

/-- What the auto-close cascade over the tickets `ts` does, and that it does nothing else. -/
structure TicketsClosed (ctx : Ctx) (itemId : UUID) (ts : List SupportRequest) (db db' : Db) : Prop where
  others : ∀ k, (∀ t ∈ ts, t.id ≠ k) → db'.supportRequests.get? k = db.supportRequests.get? k
  closed : ∀ t ∈ ts, IsClosed db' t
  frame : db' = { db with
    supportRequests := db'.supportRequests
    deviceLog := db.deviceLog ++ ts.map fun t => (closedLog itemId t.id).written ctx }

theorem TicketsClosed.items {itemId : UUID} {ts : List SupportRequest}
    (h : TicketsClosed ctx itemId ts db db') : db'.items = db.items := by rw [h.frame]

theorem TicketsClosed.requests {itemId : UUID} {ts : List SupportRequest}
    (h : TicketsClosed ctx itemId ts db db') : db'.requests = db.requests := by rw [h.frame]

theorem TicketsClosed.deviceLog {itemId : UUID} {ts : List SupportRequest}
    (h : TicketsClosed ctx itemId ts db db') :
    db'.deviceLog = db.deviceLog ++ ts.map fun t => (closedLog itemId t.id).written ctx := by
  rw [h.frame]

theorem closedOne {itemId : UUID} {k : Nat} {t : SupportRequest} {u : Unit}
    (ht : db.supportRequests.get? t.id = some t) (h : (closeTicket itemId k t).Runs ctx db u db') :
    TicketsClosed ctx itemId [t] db db' := by
  obtain ⟨t', ht', -, -, rfl⟩ := runs_closeTicket.mp h
  have hid : t'.id = t.id := ht' ▸ rfl
  have hget : ∀ q, (db.supportRequests.set t').get? q =
      if q = t'.id then some t' else db.supportRequests.get? q :=
    Relational.Table.get?_set_of_get? (hid.symm ▸ ht)
  refine ⟨fun q hq => ?_, ?_, rfl⟩
  · have hne : q ≠ t'.id := fun he => hq t List.mem_cons_self (hid.symm.trans he.symm)
    exact (hget q).trans (if_neg hne)
  · intro s hs
    obtain rfl := List.mem_singleton.mp hs
    refine ⟨ctx.clock k, t'.updatedAt, (hget s.id).trans ?_⟩
    rw [if_pos hid.symm, ht', SupportRequest.flushed_eq]

theorem TicketsClosed.of_runs {itemId : UUID} {ts : List SupportRequest}
    (hnodup : (ts.map SupportRequest.id).Nodup) : ∀ {n : Nat} {db db' : Db} {u : Unit},
    (∀ t ∈ ts, db.supportRequests.get? t.id = some t) →
    (forEach (closeTicket itemId) n ts).Runs ctx db u db' → TicketsClosed ctx itemId ts db db' := by
  induction ts with
  | nil =>
    intro n db db' u _ h
    rw [forEach, runs_pure] at h
    obtain ⟨-, rfl⟩ := h
    refine ⟨fun _ _ => rfl, fun t ht => absurd ht List.not_mem_nil, ?_⟩
    rw [List.map_nil, List.append_nil]
  | cons t ts ih =>
    intro n db db' u hstored h
    rw [List.map_cons, List.nodup_cons] at hnodup
    have hfresh : ∀ s ∈ ts, s.id ≠ t.id := fun s hs he =>
      hnodup.1 (he ▸ List.mem_map_of_mem hs)
    rw [forEach, runs_bind] at h
    obtain ⟨_, db₁, h₁, h⟩ := h
    have hone := closedOne (hstored t List.mem_cons_self) h₁
    have hrest : TicketsClosed ctx itemId ts db₁ db' := by
      refine ih hnodup.2 (fun s hs => ?_) h
      rw [hone.others s.id fun x hx => List.mem_singleton.mp hx ▸ (hfresh s hs).symm]
      exact hstored s (List.mem_cons_of_mem _ hs)
    refine ⟨fun q hq => ?_, ?_, ?_⟩
    · rw [hrest.others q fun s hs => hq s (List.mem_cons_of_mem _ hs)]
      exact hone.others q fun x hx => List.mem_singleton.mp hx ▸ hq t List.mem_cons_self
    · intro s hs
      rcases List.mem_cons.mp hs with rfl | hs
      · obtain ⟨now, updatedAt, hclosed⟩ := hone.closed s List.mem_cons_self
        exact ⟨now, updatedAt, (hrest.others s.id hfresh).trans hclosed⟩
      · exact hrest.closed s hs
    · rw [hrest.frame, hone.frame]
      simp only [List.map_cons, List.map_nil, List.append_assoc, List.cons_append, List.nil_append]

theorem mem_openTickets {db : Db} {itemId : UUID} {t : SupportRequest} :
    t ∈ ((db.supportRequests.rows.filter fun t =>
        t.itemId = itemId ∧ t.status ∈ SupportRequestRepository._OPEN_STATUSES).insertionSort
          fun x y => x.filedAt ≤ y.filedAt) ↔
      t ∈ db.supportRequests ∧ t.itemId = itemId ∧ t.status ≠ .resolved := by
  have hopen : t.status ∈ SupportRequestRepository._OPEN_STATUSES ↔ t.status ≠ .resolved := by
    cases t.status <;> simp [SupportRequestRepository._OPEN_STATUSES]
  rw [List.mem_insertionSort, List.mem_filter, decide_eq_true_iff, hopen]
  exact Iff.rfl

theorem openTickets_nodup {db : Db} {itemId : UUID} :
    (((db.supportRequests.rows.filter fun t =>
        t.itemId = itemId ∧ t.status ∈ SupportRequestRepository._OPEN_STATUSES).insertionSort
          fun x y => x.filedAt ≤ y.filedAt).map SupportRequest.id).Nodup := by
  rw [((List.perm_insertionSort _ _).map _).nodup_iff]
  exact List.Nodup.sublist (List.filter_sublist.map _) (Relational.Table.nodup _)

/-- The cascade goes over the open tickets of the item in the order of their filing, each of them once. -/
theorem cascade_in_order {itemId : UUID} {u : Unit} (h : (autoCloseOpenSupport itemId).Runs ctx db u db') :
    ∃ ts : List SupportRequest, ts.Pairwise (fun x y => x.filedAt ≤ y.filedAt) ∧
      (ts.map SupportRequest.id).Nodup ∧
        (∀ t, t ∈ ts ↔ t ∈ db.supportRequests ∧ t.itemId = itemId ∧ t.status ≠ .resolved) ∧
          TicketsClosed ctx itemId ts db db' := by
  simp only [autoCloseOpenSupport, runs_bind, SupportRequestRepository.runs_listOpenForItem] at h
  obtain ⟨_, _, ⟨rfl, rfl⟩, h⟩ := h
  have : Std.Total fun x y : SupportRequest => x.filedAt ≤ y.filedAt := ⟨fun x y => Int.le_total _ _⟩
  have : IsTrans SupportRequest fun x y => x.filedAt ≤ y.filedAt := ⟨fun _ _ _ => Int.le_trans⟩
  refine ⟨_, List.pairwise_insertionSort _ _, openTickets_nodup, fun t => mem_openTickets,
    TicketsClosed.of_runs openTickets_nodup (fun t ht => ?_) h⟩
  exact Relational.Table.mem_iff_get?.mp (mem_openTickets.mp ht).1

theorem cascade_of_runs {itemId : UUID} {u : Unit} (h : (autoCloseOpenSupport itemId).Runs ctx db u db') :
    ∃ ts, (ts.map SupportRequest.id).Nodup ∧
      (∀ t, t ∈ ts ↔ t ∈ db.supportRequests ∧ t.itemId = itemId ∧ t.status ≠ .resolved) ∧
        TicketsClosed ctx itemId ts db db' := by
  obtain ⟨ts, -, hcascade⟩ := cascade_in_order h
  exact ⟨ts, hcascade⟩

/-- **The cascade closes exactly the open tickets of the item.** -/
theorem runs_autoCloseOpenSupport {itemId : UUID} {u : Unit}
    (h : (autoCloseOpenSupport itemId).Runs ctx db u db') :
    ∃ ts, (∀ t, t ∈ ts ↔ t ∈ db.supportRequests ∧ t.itemId = itemId ∧ t.status ≠ .resolved) ∧
      TicketsClosed ctx itemId ts db db' := by
  obtain ⟨ts, -, hts, hclosed⟩ := cascade_of_runs h
  exact ⟨ts, hts, hclosed⟩

theorem runs_completeReturn {nextStatus : DeviceStatus} :
    (completeReturn requestId nextStatus actorId).Runs ctx db row db' ↔
    ∃ request, db.requests.get? requestId = some request ∧
      ∃ item, (∃ itemId, request.assignedItemId = some itemId ∧ db.items.get? itemId = some item) ∧
      item.status ∈ _RETURN_ELIGIBLE_STATUSES ∧
      ∃ request', request' =
          flushed ctx db (completedRequest request (some nextStatus) actorId (ctx.clock 0)) ∧
        Model.constraints db request' = .ok () ∧
      ∃ item', item' = flushed ctx (db.setRequest request') (item.release nextStatus) ∧
        Model.constraints (db.setRequest request') item' = .ok () ∧
      ∃ log, log = shippingLog .returnReceived item'.id request'.id actorId item.status nextStatus none ∧
        ((db.setRequest request').setItem item').DeviceLogIntegral log.row ∧
      ∃ log', log' = completionLog item'.id request'.id actorId ∧
        (((db.setRequest request').setItem item').appendLog (log.written ctx)).DeviceLogIntegral
          log'.row ∧
      (∃ u, (autoCloseOpenSupport item'.id).Runs ctx
        ((((db.setRequest request').setItem item').appendLog (log.written ctx)).appendLog
          (log'.written ctx)) u db') ∧
      row = request' := by
  simp [completeReturn, and_assoc]

end ShippingService

end AssetPilot
