import AssetPilot.Custody.Refinement

/-!
# What can happen to a request

`Event.Rewrites` says once how an event can write a stored request, and from which guards;
`Event.Creates` which requests an event can insert. A law of every request is proved from
`Event.RequestsStep.forall_mem`.
-/

namespace AssetPilot

open Relational
open SQLAlchemyRepository (flushed)

variable {ctx : Ctx} {db db' : Db} {e : Event} {requestId : UUID}

/-! ### The writes -/

/-- The call writes the request `r` as `r'`, apart from `updated_at`. -/
inductive Op.Rewrites (ctx : Ctx) (db : Db) : Op → Request → Request → Prop
  | updateBookingRange {r f t} (hstatus : r.status = .assigned) :
    Rewrites ctx db (.updateBookingRange r.id f t) r { r with assignedFrom := some f, assignedTo := some t }
  | assign {r itemId f t wfh actorId item} (hstatus : r.status = .pendingItApproval)
      (hitem : db.items.get? itemId = some item) (havail : item.status = .available)
      (hcategory : item.categoryId = r.categoryId) :
    Rewrites ctx db (.assign r.id itemId f t wfh actorId) r
      (AssignmentService.assignedRequest r itemId f t wfh actorId (ctx.clock 0))
  | reject {r reason note actorId} (hstatus : r.status = .pendingItApproval) :
    Rewrites ctx db (.reject r.id reason note actorId) r
      (RequestService.rejectedRequest r reason note actorId (ctx.clock 0))
  | cancel {r reason actorId} (hstatus : r.status ∉ _TERMINAL_STATUSES) :
    Rewrites ctx db (.cancel r.id reason actorId) r
      (RequestService.cancelledRequest r reason actorId (ctx.clock 0))
  | escalateToManager {r managerId} (hstatus : r.status = .pendingItApproval)
      (hrequires : r.requiresMgrApproval = false) :
    Rewrites ctx db (.escalateToManager r.id managerId) r
      (RequestService.escalatedRequest r (RequestService.resolvedManager db r managerId))
  | ship {r url actorId itemId item} (hwfh : r.isWfh = true) (hdevice : r.assignedItemId = some itemId)
      (hitem : db.items.get? itemId = some item) (hstatus : item.status = .assigned) :
    Rewrites ctx db (.ship r.id url actorId) r (ShippingService.shippedRequest r url (ctx.clock 0))
  | confirmDelivery {r actorId itemId item} (hdevice : r.assignedItemId = some itemId)
      (hitem : db.items.get? itemId = some item) (hstatus : item.status = .shippingPending) :
    Rewrites ctx db (.confirmDelivery r.id actorId) r (ShippingService.deliveredRequest r (ctx.clock 0))
  | completeReturn {r next actorId itemId item} (hdevice : r.assignedItemId = some itemId)
      (hitem : db.items.get? itemId = some item)
      (hstatus : item.status ∈ ShippingService._RETURN_ELIGIBLE_STATUSES) :
    Rewrites ctx db (.completeReturn r.id next actorId) r
      (ShippingService.completedRequest r (some next) actorId (ctx.clock 0))
  | swapped {r ticketId note newId next actorId ticket item newItem}
      (hticket : db.supportRequests.get? ticketId = some ticket) (hopen : ticket.status ≠ .resolved)
      (htied : ticket.requestId = some r.id) (hitem : db.items.get? ticket.itemId = some item)
      (hnew : db.items.get? newId = some newItem) (htarget : SwapTarget item newItem) :
    Rewrites ctx db (.resolve ticketId .swapped note (some newId) (some next) actorId) r
      { r with assignedItemId := some newItem.id }
  | markedLost {r ticketId note newId next actorId ticket}
      (hticket : db.supportRequests.get? ticketId = some ticket) (hopen : ticket.status ≠ .resolved)
      (htied : ticket.requestId = some r.id) :
    Rewrites ctx db (.resolve ticketId .markedLost note newId next actorId) r
      (ShippingService.completedRequest r none actorId (ctx.clock 0))
  | approveExtension {r extensionId note actorId x itemId}
      (hextension : db.extensionRequests.get? extensionId = some x) (hpending : x.status = .pending)
      (hmgr : x.mgrApprovalStatus ∈ ExtensionService._MGR_APPROVAL_STATUSES_ALLOWING_IT_APPROVAL)
      (hparent : x.originalRequestId = r.id) (hdevice : r.assignedItemId = some itemId) :
    Rewrites ctx db (.approveExtension extensionId note actorId) r
      { r with assignedTo := some x.extendedTo }

/-- The step of the employees and managers writes the request `r` as `r'`, apart from `updated_at`. -/
inductive PortalStep.Rewrites (db : Db) : PortalStep → Request → Request → Prop
  | submitRequest {r status} (hstatus : r.status = .requested)
      (hqueue : status = .pendingMgrApproval ∨ status = .pendingItApproval) :
    Rewrites db (.submitRequest r.id status) r { r with status := status }
  | decideRequest {r approved note now} (hstatus : r.status = .pendingMgrApproval) :
    Rewrites db (.decideRequest r.id approved note now) r { r with
      status := if approved then .pendingItApproval else .rejected
      mgrApprovalStatus := if approved then .approved else .rejected
      managerDecisionNote := note
      managerDecidedAt := some now
      rejectedBy := if approved then r.rejectedBy else some .manager }
  | initiateReturn {r url now itemId item} (hdevice : r.assignedItemId = some itemId)
      (hitem : db.items.get? itemId = some item)
      (hguard : r.isWfh = true ∧ r.status = .assigned ∧ item.status = .assigned) :
    Rewrites db (.initiateReturn r.id url now) r
      { r with returnTrackingUrl := url, returnInitiatedAt := some now }

inductive Event.Rewrites (db : Db) : Event → Request → Request → Prop
  | service {ctx op r r'} (h : op.Rewrites ctx db r r') : Rewrites db (.service ctx op) r r'
  | portal {ctx step r r'} (h : step.Rewrites db r r') : Rewrites db (.portal ctx step) r r'

/-- The event inserts the request `r`, apart from the time columns. -/
inductive Event.Creates (db : Db) : Event → Request → Prop
  | directAssign {ctx itemId employeeId f t actorId item employee}
      (hitem : db.items.get? itemId = some item) (howner : item.ownerType = .client)
      (havail : item.status = .available) (hemployee : db.users.get? employeeId = some employee)
      (hactive : employee.isActive = true) :
    Creates db (.service ctx (.directAssign itemId employeeId f t actorId))
      (AssignmentService.directRequest (ctx.uuid4 0) itemId item.categoryId employeeId f t actorId
        (ctx.clock 0))
  | fileRequest {ctx request} (hfiled : request.assignedItemId = none ∧ request.status ∈ _FILED_STATUSES) :
    Creates db (.portal ctx (.fileRequest request)) request

theorem Event.Rewrites.id_eq {r r' : Request} (h : e.Rewrites db r r') : r'.id = r.id := by
  cases h with
  | service h => cases h <;> rfl
  | portal h => cases h <;> rfl

/-- What an event does to the requests: it writes one, or inserts one, or none of either. -/
inductive Event.RequestsStep (db : Db) (e : Event) (db' : Db) : Prop
  | same (h : db'.requests = db.requests)
  | rewrite {r r' : Request} {u : Datetime} (hr : db.requests.get? r.id = some r) (h : e.Rewrites db r r')
      (hset : db'.requests = db.requests.set { r' with updatedAt := u })
  | create {r : Request} {u : Datetime} (hfresh : db.requests.get? r.id = none) (h : e.Creates db r)
      (hinsert : db'.requests = db.requests.insert { r with createdAt := u, updatedAt := u })

theorem Event.RequestsStep.of_set {db₀ : Db} {r r' x : Request}
    (hr : db.requests.get? requestId = some r) (hr' : r' = flushed ctx db₀ x)
    (h : r.id = requestId → e.Rewrites db r x)
    (hset : db'.requests = db.requests.set r') : e.RequestsStep db db' := by
  obtain rfl : r.id = requestId := Table.get?_key hr
  rw [hr', Request.flushed_eq] at hset
  exact .rewrite hr (h rfl) hset

/-- **The rule for laws of every request**: what holds of a written request when it held before, and of
an inserted one, is preserved. -/
theorem Event.RequestsStep.forall_mem {P : Request → Prop} (h : e.RequestsStep db db')
    (hrewrite : ∀ r r' u, db.requests.get? r.id = some r → e.Rewrites db r r' → P r →
      P { r' with updatedAt := u })
    (hcreate : ∀ r u, e.Creates db r → P { r with createdAt := u, updatedAt := u })
    (hold : ∀ r ∈ db.requests, P r) : ∀ r ∈ db'.requests, P r := by
  intro x hx
  cases h with
  | same hsame => exact hold x (hsame ▸ hx)
  | rewrite hr hw hset =>
    rw [hset] at hx
    rcases Table.mem_set.mp hx with ⟨rfl, -⟩ | ⟨hx, -⟩
    · exact hrewrite _ _ _ hr hw (hold _ (Table.get?_mem hr))
    · exact hold x hx
  | @create r u hfresh hc hinsert =>
    have hfresh' : db.requests.get? { r with createdAt := u, updatedAt := u }.id = none := hfresh
    rw [hinsert] at hx
    rcases (Table.mem_insert hfresh').mp hx with hx | rfl
    · exact hold x hx
    · exact hcreate r u hc

/-- **The rule for what requests keep**: a stored request stays, as it was or as the event writes it. -/
theorem Event.RequestsStep.stays {x : Request} (h : e.RequestsStep db db')
    (hx : db.requests.get? requestId = some x) : db'.requests.get? requestId = some x ∨
      ∃ r' u, e.Rewrites db x r' ∧ db'.requests.get? requestId = some { r' with updatedAt := u } := by
  cases h with
  | same hsame => exact .inl (hsame ▸ hx)
  | @rewrite r r' u hr hw hset =>
    have hid : { r' with updatedAt := u }.id = r.id := hw.id_eq
    rw [hset]
    by_cases hq : requestId = r.id
    · subst hq
      obtain rfl := Option.some.inj (hr.symm.trans hx)
      exact .inr ⟨r', u, hw, Table.get?_set_self hr hid⟩
    · exact .inl ((Table.get?_set_of_ne (hid.symm ▸ hq)).trans hx)
  | @create r u hfresh _ hinsert =>
    have hfresh' : db.requests.get? { r with createdAt := u, updatedAt := u }.id = none := hfresh
    have hne : requestId ≠ { r with createdAt := u, updatedAt := u }.id := by
      rintro rfl
      exact absurd (hfresh'.symm.trans hx) (Option.some_ne_none x).symm
    rw [hinsert]
    exact .inl (((Table.get?_insert hfresh' requestId).trans (if_neg hne)).trans hx)

end AssetPilot
