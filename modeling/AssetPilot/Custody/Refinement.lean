import AssetPilot.Custody.View

/-!
# The services refine custody

`Event.Performs` names the act that an event performs from a database, with the rows that determine it.
`Event.refines`: an event that commits is a step of custody under such an act.
-/

namespace AssetPilot

open Relational Custody Txn
open SQLAlchemyRepository (flushed born)

abbrev CustodyAct := Act UUID UUID UUID UUID

theorem bind_eq_some {α β : Type} {o : Option α} {f : α → Option β} {x : α} {y : β} (hx : o = some x)
    (hy : f x = some y) : o.bind f = some y := by
  rw [hx]
  exact hy

/-! ### The act of an event -/

/-- The guards of `_swap` on the two devices. -/
def SwapTarget (oldItem newItem : Item) : Prop :=
  newItem.id ≠ oldItem.id ∧ newItem.categoryId = oldItem.categoryId ∧ newItem.status = .available

instance (oldItem newItem : Item) : Decidable (SwapTarget oldItem newItem) :=
  inferInstanceAs (Decidable (_ ∧ _ ∧ _))

/-- The act that a call performs when it commits. -/
inductive Op.Performs (ctx : Ctx) (db : Db) : Op → CustodyAct → Prop
  | createItem {name serialNo categoryId ownerType clientName date actorId} :
    Performs ctx db (.createItem name serialNo categoryId ownerType clientName date actorId)
      (.addDevice (ctx.uuid4 0))
  | editItem {itemId updates actorId} : Performs ctx db (.editItem itemId updates actorId) .idle
  | changeStatus {itemId status note actorId item} (hitem : db.items.get? itemId = some item) :
    Performs ctx db (.changeStatus itemId status note actorId) (.turn itemId item.status status)
  | updateBookingRange {requestId f t} : Performs ctx db (.updateBookingRange requestId f t) .idle
  | assign {requestId itemId f t wfh actorId} :
    Performs ctx db (.assign requestId itemId f t wfh actorId) (.hand requestId itemId)
  | directAssign {itemId employeeId f t actorId} :
    Performs ctx db (.directAssign itemId employeeId f t actorId)
      (.handNew (ctx.uuid4 0) employeeId itemId)
  | reject {requestId reason note actorId request} (hrequest : db.requests.get? requestId = some request)
      (hstatus : request.status = .pendingItApproval) :
    Performs ctx db (.reject requestId reason note actorId) (.decide requestId .rejected)
  | cancel {requestId reason actorId request} (hrequest : db.requests.get? requestId = some request) :
    Performs ctx db (.cancel requestId reason actorId) (.decide requestId .cancelled)
  | escalateToManager {requestId managerId request}
      (hrequest : db.requests.get? requestId = some request)
      (hstatus : request.status = .pendingItApproval) :
    Performs ctx db (.escalateToManager requestId managerId) (.decide requestId .pendingMgrApproval)
  | ship {requestId url actorId request item itemId}
      (hrequest : db.requests.get? requestId = some request)
      (hassigned : request.assignedItemId = some itemId) (hitem : db.items.get? itemId = some item)
      (hstatus : item.status = .assigned) :
    Performs ctx db (.ship requestId url actorId) (.turn itemId item.status .shippingPending)
  | confirmDelivery {requestId actorId request item itemId}
      (hrequest : db.requests.get? requestId = some request)
      (hassigned : request.assignedItemId = some itemId) (hitem : db.items.get? itemId = some item)
      (hstatus : item.status = .shippingPending) :
    Performs ctx db (.confirmDelivery requestId actorId) (.turn itemId item.status .assigned)
  | completeReturn {requestId next actorId request item itemId}
      (hrequest : db.requests.get? requestId = some request)
      (hassigned : request.assignedItemId = some itemId) (hitem : db.items.get? itemId = some item)
      (hstatus : item.status ∈ ShippingService._RETURN_ELIGIBLE_STATUSES) :
    Performs ctx db (.completeReturn requestId next actorId) (.complete requestId itemId next)
  | start {ticketId actorId} : Performs ctx db (.start ticketId actorId) .idle
  | startRepair {ticketId actorId ticket item} (hticket : db.supportRequests.get? ticketId = some ticket)
      (hitem : db.items.get? ticket.itemId = some item) :
    Performs ctx db (.start ticketId actorId) (.turn ticket.itemId item.status .underRepair)
  | remoteResolved {ticketId note newId next actorId} :
    Performs ctx db (.resolve ticketId .remoteResolved note newId next actorId) (.closeTicket ticketId)
  | repairedInPlace {ticketId note newId next actorId ticket item}
      (hticket : db.supportRequests.get? ticketId = some ticket) (hopen : ticket.status ≠ .resolved)
      (hitem : db.items.get? ticket.itemId = some item) (hstatus : item.status = .underRepair) :
    Performs ctx db (.resolve ticketId .repairedInPlace note newId next actorId)
      (.repair ticketId ticket.itemId)
  | swapped {ticketId note newId next actorId ticket item newItem requestId request}
      (hticket : db.supportRequests.get? ticketId = some ticket) (hopen : ticket.status ≠ .resolved)
      (hitem : db.items.get? ticket.itemId = some item) (hnew : db.items.get? newId = some newItem)
      (htarget : SwapTarget item newItem) (htied : ticket.requestId = some requestId)
      (hrequest : db.requests.get? requestId = some request) :
    Performs ctx db (.resolve ticketId .swapped note (some newId) (some next) actorId)
      (.swap ticketId requestId ticket.itemId newId next)
  | markedLost {ticketId note newId next actorId ticket requestId request}
      (hticket : db.supportRequests.get? ticketId = some ticket) (hopen : ticket.status ≠ .resolved)
      (htied : ticket.requestId = some requestId) (hrequest : db.requests.get? requestId = some request) :
    Performs ctx db (.resolve ticketId .markedLost note newId next actorId)
      (.lose ticketId requestId ticket.itemId)
  | approveExtension {extensionId note actorId} :
    Performs ctx db (.approveExtension extensionId note actorId) .idle
  | rejectExtension {extensionId note actorId} :
    Performs ctx db (.rejectExtension extensionId note actorId) .idle
  | createUser {name email role} :
    Performs ctx db (.createUser name email role) (.addUser (ctx.uuid4 0))
  | changeRole {userId role} : Performs ctx db (.changeRole userId role) .idle
  | deactivate {userId} : Performs ctx db (.deactivate userId) (.setActive userId false)
  | activate {userId} : Performs ctx db (.activate userId) (.setActive userId true)
  | register {name email role password} :
    Performs ctx db (.register name email role password) (.addUser (ctx.uuid4 0))

/-- The act that a step of the employees and managers performs. -/
inductive PortalStep.Performs (db : Db) : PortalStep → CustodyAct → Prop
  | fileRequest {request} :
    Performs db (.fileRequest request) (.addClaim request.id request.requesterId request.status)
  | submitRequest {requestId status request} (hrequest : db.requests.get? requestId = some request)
      (hstatus : request.status = .requested) :
    Performs db (.submitRequest requestId status) (.decide requestId status)
  | decideRequest {requestId approved note now request}
      (hrequest : db.requests.get? requestId = some request)
      (hstatus : request.status = .pendingMgrApproval) :
    Performs db (.decideRequest requestId approved note now)
      (.decide requestId (if approved then .pendingItApproval else .rejected))
  | fileTicket {ticket} :
    Performs db (.fileTicket ticket) (.openTicket ticket.id ticket.itemId ticket.requestId)
  | fileExtension {extension} : Performs db (.fileExtension extension) .idle
  | decideExtension {extensionId approved note now} :
    Performs db (.decideExtension extensionId approved note now) .idle
  | initiateReturn {requestId url now request item itemId}
      (hrequest : db.requests.get? requestId = some request)
      (hassigned : request.assignedItemId = some itemId) (hitem : db.items.get? itemId = some item)
      (hstatus : item.status = .assigned) (hguard : request.isWfh = true ∧ request.status = .assigned) :
    Performs db (.initiateReturn requestId url now) (.turn itemId item.status .returnShippingPending)

/-- The act of an event. -/
inductive Event.Performs (db : Db) : Event → CustodyAct → Prop
  | service {ctx op a} (h : op.Performs ctx db a) : Performs db (.service ctx op) a
  | portal {ctx step a} (h : step.Performs db a) : Performs db (.portal ctx step) a

variable {ctx : Ctx} {db db' : Db} {requestId itemId actorId : UUID}

/-! ### Inventory -/

namespace InventoryService

theorem createItem_refines {name serialNo : String} {categoryId : UUID} {ownerType : OwnerType}
    {clientName : Option String} {date : Option Date} {row : Item}
    (h : (createItem name serialNo categoryId ownerType clientName date actorId).Runs ctx db row db') :
    Custody.Step db.custody (.addDevice (ctx.uuid4 0)) db'.custody := by
  obtain ⟨-, -, hfresh, i, rfl, -, -, -, rfl⟩ := runs_createItem.mp h
  rw [Db.custody_appendLog, Db.custody_addItem hfresh rfl]
  exact .addDevice (congrArg (Option.map Item.custody) hfresh)

theorem editItem_refines {updates : ItemUpdates} {row : Item}
    (h : (editItem itemId updates actorId).Runs ctx db row db') :
    Custody.Step db.custody .idle db'.custody := by
  obtain ⟨i, hi, -, i', hi', -, ⟨_, hlog⟩, -⟩ := runs_editItem.mp h
  have hid : i'.id = itemId := hi' ▸ Table.get?_key hi
  have hsame : (db.setItem i').custody = db.custody := by
    have hdevice := Db.custody_device hi
    rw [Db.custody_setItem hi hid, hi']
    exact State.setDevice_eq_self _ hdevice
  rcases runs_logChanges.mp hlog with ⟨-, rfl⟩ | ⟨-, -, rfl⟩
  · rw [hsame]
    exact .idle
  · rw [Db.custody_appendLog, hsame]
    exact .idle

theorem changeStatus_refines {status : DeviceStatus} {note : Option String} {row : Item}
    (h : (changeStatus itemId status note actorId).Runs ctx db row db') :
    ∃ item, db.items.get? itemId = some item ∧
      Custody.Step db.custody (.turn itemId item.status status) db'.custody := by
  obtain ⟨i, hi, i', hi', -, _, -, -, -, rfl⟩ := runs_changeStatus.mp h
  have hid : i'.id = itemId := hi' ▸ Table.get?_key hi
  refine ⟨i, hi, ?_⟩
  rw [Db.custody_appendLog, Db.custody_setItem hi hid, hi']
  exact .turn (Db.custody_device hi)

end InventoryService

/-! ### Assignment -/

namespace AssignmentService

theorem updateBookingRange_refines {f t : Datetime} {row : Request}
    (h : (updateBookingRange requestId f t).Runs ctx db row db') :
    Custody.Step db.custody .idle db'.custody := by
  obtain ⟨r, d, hr, -, -, -, -, hrow, rfl⟩ := runs_updateBookingRange.mp h
  have hid : row.id = requestId := hrow ▸ Table.get?_key hr
  have hclaim := Db.custody_claim hr
  have hsame : db.custody.setClaim requestId row.claim = db.custody := by
    rw [hrow]
    exact State.setClaim_eq_self _ hclaim
  rw [Db.custody_setRequest hr hid, hsame]
  exact .idle

theorem assign_refines {f t : Datetime} {wfh : Bool} {row : Request}
    (h : (assign requestId itemId f t wfh actorId).Runs ctx db row db') :
    Custody.Step db.custody (.hand requestId itemId) db'.custody := by
  obtain ⟨r, hr, hstatus, i, hi, havail, -, -, r', hr', hok, i', hi', -, -, -, rfl⟩ := runs_assign.mp h
  have hrid : r'.id = requestId := hr' ▸ Table.get?_key hr
  have hiid : i'.id = itemId := hi' ▸ Table.get?_key hi
  have hassigned : r'.status = .assigned := hr' ▸ rfl
  have hexcl := exclusive_of_constraints hok (by rw [hassigned]; decide)
    (show r'.assignedItemId = some itemId from hr' ▸ rfl)
  have hi₁ : (db.setRequest r').items.get? itemId = some i := hi
  rw [Db.custody_appendLog, Db.custody_setItem hi₁ hiid, Db.custody_setRequest hr hrid]
  rw [hrid, hassigned] at hexcl
  subst hr' hi'
  exact .hand (Db.custody_claim hr) hstatus (Db.custody_device hi) havail hexcl

theorem directAssign_refines {employeeId : UUID} {f t : Datetime} {row : Request}
    (h : (directAssign itemId employeeId f t actorId).Runs ctx db row db') :
    Custody.Step db.custody (.handNew (ctx.uuid4 0) employeeId itemId) db'.custody := by
  obtain ⟨i, hi, -, havail, -, u, hu, hactive, r', hr', hfresh, hok, i', hi', -, -, -, rfl⟩ :=
    runs_directAssign.mp h
  have hrid : r'.id = ctx.uuid4 0 := hr' ▸ rfl
  have hiid : i'.id = itemId := hi' ▸ Table.get?_key hi
  have hassigned : r'.status = .assigned := hr' ▸ rfl
  have hexcl := exclusive_of_constraints hok (by rw [hassigned]; decide)
    (show r'.assignedItemId = some itemId from hr' ▸ rfl)
  have hi₁ : (db.addRequest r').items.get? itemId = some i := hi
  rw [Db.custody_appendLog, Db.custody_setItem hi₁ hiid, Db.custody_addRequest hfresh hrid]
  rw [hrid, hassigned] at hexcl
  subst hr' hi'
  have hu' : db.custody.active employeeId = some true := hactive ▸ Db.custody_active hu
  exact .handNew (congrArg (Option.map Request.claim) hfresh) hu' (Db.custody_device hi) havail hexcl

end AssignmentService

/-! ### Decisions -/

theorem decide_refines {r r' : Request} {s : RequestStatus} (hr : db.requests.get? requestId = some r)
    (hid : r'.id = requestId) (hclaim : r'.claim = { r.claim with status := s })
    (hok : Model.constraints db r' = .ok ()) (hopen : ¬ Ended r.status) (hs : s ≠ .assigned)
    (hend : r.status = .assigned → Ended s) :
    Custody.Step db.custody (.decide requestId s) (db.setRequest r').custody := by
  have hstatus : r'.status = s := congrArg Claim.status hclaim
  have hdevice : r'.assignedItemId = r.assignedItemId := congrArg Claim.device hclaim
  rw [Db.custody_setRequest hr hid, hclaim]
  refine .decide (Db.custody_claim hr) hopen hs hend fun hnot d hd => ?_
  subst hid hstatus
  exact exclusive_of_constraints hok hnot (hdevice.trans hd)

namespace RequestService

theorem reject_refines {reason : String} {note : Option String} {row : Request}
    (h : (reject requestId reason note actorId).Runs ctx db row db') :
    ∃ request, db.requests.get? requestId = some request ∧ request.status = .pendingItApproval ∧
      Custody.Step db.custody (.decide requestId .rejected) db'.custody := by
  obtain ⟨r, hr, hstatus, hok, hrow, rfl⟩ := runs_reject.mp h
  have hid : row.id = requestId := hrow ▸ Table.get?_key hr
  refine ⟨r, hr, hstatus, decide_refines hr hid (hrow ▸ rfl) hok ?_ nofun fun _ => .inr (.inl rfl)⟩
  rw [hstatus]
  decide

theorem cancel_refines {reason : String} {row : Request}
    (h : (cancel requestId reason actorId).Runs ctx db row db') :
    ∃ request, db.requests.get? requestId = some request ∧
      Custody.Step db.custody (.decide requestId .cancelled) db'.custody := by
  obtain ⟨r, hr, hstatus, hok, hrow, rfl⟩ := runs_cancel.mp h
  have hid : row.id = requestId := hrow ▸ Table.get?_key hr
  refine ⟨r, hr, decide_refines hr hid (hrow ▸ rfl) hok ?_ nofun fun _ => .inr (.inr rfl)⟩
  exact fun hended => hstatus (mem_TERMINAL_STATUSES.mpr hended)

theorem escalateToManager_refines {managerId : Option UUID} {row : Request}
    (h : (escalateToManager requestId managerId).Runs ctx db row db') :
    ∃ request, db.requests.get? requestId = some request ∧ request.status = .pendingItApproval ∧
      Custody.Step db.custody (.decide requestId .pendingMgrApproval) db'.custody := by
  obtain ⟨r, hr, ⟨hstatus, -⟩, hok, hrow, rfl⟩ := runs_escalateToManager.mp h
  have hid : row.id = requestId := hrow ▸ Table.get?_key hr
  refine ⟨r, hr, hstatus, decide_refines hr hid (hrow ▸ rfl) hok ?_ nofun fun ha => ?_⟩
  · rw [hstatus]
    decide
  · exact nomatch hstatus.symm.trans ha

end RequestService

/-! ### Shipping and returns -/

/-- A write of a request that custody does not see, followed by a turn of its item. -/
theorem turn_refines {r r' : Request} {i i' : Item} {s : DeviceStatus}
    (hr : db.requests.get? requestId = some r) (hrid : r'.id = requestId) (hclaim : r'.claim = r.claim)
    (hi : db.items.get? itemId = some i) (hiid : i'.id = itemId)
    (hcustody : i'.custody = { i.custody with status := s }) :
    Custody.Step db.custody (.turn itemId i.status s) ((db.setRequest r').setItem i').custody := by
  have hi₁ : (db.setRequest r').items.get? itemId = some i := hi
  rw [Db.custody_setItem hi₁ hiid, Db.custody_setRequest hr hrid, hclaim, hcustody,
    State.setClaim_eq_self _ (Db.custody_claim hr)]
  exact .turn (Db.custody_device hi)

namespace ShippingService

theorem ship_refines {url : String} {row : Request}
    (h : (ship requestId url actorId).Runs ctx db row db') :
    ∃ request item itemId, db.requests.get? requestId = some request ∧
      request.assignedItemId = some itemId ∧ db.items.get? itemId = some item ∧
      item.status = .assigned ∧
      Custody.Step db.custody (.turn itemId item.status .shippingPending) db'.custody := by
  obtain ⟨r, hr, -, i, ⟨d, hd, hi⟩, hstatus, r', hr', -, i', hi', -, _, -, -, -, rfl⟩ := runs_ship.mp h
  have hrid : r'.id = requestId := hr' ▸ Table.get?_key hr
  have hiid : i'.id = d := hi' ▸ Table.get?_key hi
  exact ⟨r, i, d, hr, hd, hi, hstatus, turn_refines hr hrid (hr' ▸ rfl) hi hiid (hi' ▸ rfl)⟩

theorem confirmDelivery_refines {row : Request}
    (h : (confirmDelivery requestId actorId).Runs ctx db row db') :
    ∃ request item itemId, db.requests.get? requestId = some request ∧
      request.assignedItemId = some itemId ∧ db.items.get? itemId = some item ∧
      item.status = .shippingPending ∧
      Custody.Step db.custody (.turn itemId item.status .assigned) db'.custody := by
  obtain ⟨r, hr, i, ⟨d, hd, hi⟩, hstatus, r', hr', -, i', hi', -, _, -, -, -, rfl⟩ :=
    runs_confirmDelivery.mp h
  have hrid : r'.id = requestId := hr' ▸ Table.get?_key hr
  have hiid : i'.id = d := hi' ▸ Table.get?_key hi
  exact ⟨r, i, d, hr, hd, hi, hstatus, turn_refines hr hrid (hr' ▸ rfl) hi hiid (hi' ▸ rfl)⟩

theorem TicketsClosed.custody {ts : List SupportRequest}
    (hts : ∀ t, t ∈ ts ↔ t ∈ db.supportRequests ∧ t.itemId = itemId ∧ t.status ≠ .resolved)
    (h : TicketsClosed ctx itemId ts db db') : db'.custody = db.custody.closeTickets itemId := by
  have hframe := h.frame
  ext k : 2
  case ticket =>
    show (db'.supportRequests.get? k).map SupportRequest.ticket =
      ((db.supportRequests.get? k).map SupportRequest.ticket).map _
    by_cases hk : ∃ t ∈ ts, t.id = k
    · obtain ⟨t, ht, rfl⟩ := hk
      obtain ⟨hmem, hitem, -⟩ := (hts t).mp ht
      obtain ⟨now, updatedAt, hclosed⟩ := h.closed t ht
      have hstored : db.supportRequests.get? t.id = some t := Table.mem_iff_get?.mp hmem
      rw [hclosed, hstored, Option.map_some, Option.map_some, Option.map_some, Option.some.injEq]
      exact (if_pos hitem).symm
    · rw [h.others k fun t ht he => hk ⟨t, ht, he⟩]
      rcases hstored : db.supportRequests.get? k with _ | t
      · rfl
      · rw [Option.map_some, Option.map_some, Option.some.injEq]
        split
        · next hitem =>
          -- the ticket was resolved before, or the cascade would have closed it
          have hresolved : t.status = .resolved := by
            by_contra hopen
            exact hk ⟨t, (hts t).mpr ⟨Table.get?_mem hstored, hitem, hopen⟩, Table.get?_key hstored⟩
          simp [SupportRequest.ticket, hresolved]
        · rfl
  all_goals
    rw [hframe]
    rfl

theorem completeReturn_refines {next : DeviceStatus} {row : Request}
    (h : (completeReturn requestId next actorId).Runs ctx db row db') :
    ∃ request item itemId, db.requests.get? requestId = some request ∧
      request.assignedItemId = some itemId ∧ db.items.get? itemId = some item ∧
      item.status ∈ _RETURN_ELIGIBLE_STATUSES ∧
      Custody.Step db.custody (.complete requestId itemId next) db'.custody := by
  obtain ⟨r, hr, i, ⟨d, hd, hi⟩, hstatus, r', hr', -, i', hi', -, _, -, -, _, -, -, ⟨_, hclose⟩, -⟩ :=
    runs_completeReturn.mp h
  have hrid : r'.id = requestId := hr' ▸ Table.get?_key hr
  have hiid : i'.id = d := hi' ▸ Table.get?_key hi
  have hi₁ : (db.setRequest r').items.get? d = some i := hi
  obtain ⟨ts, hts, hclosed⟩ := runs_autoCloseOpenSupport hclose
  have hcustody := hclosed.custody hts
  rw [hiid, Db.custody_appendLog, Db.custody_appendLog, Db.custody_setItem hi₁ hiid,
    Db.custody_setRequest hr hrid] at hcustody
  have heligible : i.status = .assigned ∨ i.status = .returnShippingPending := by
    simpa [_RETURN_ELIGIBLE_STATUSES] using hstatus
  refine ⟨r, i, d, hr, hd, hi, hstatus, ?_⟩
  rw [hcustody]
  subst hr' hi'
  exact .complete (Db.custody_claim hr) hd (Db.custody_device hi) heligible

end ShippingService

/-! ### Support -/

namespace SupportService

variable {ticketId : UUID} {row : SupportRequest} {u : Unit}

theorem start_refines (h : (start ticketId actorId).Runs ctx db row db') :
    ∃ ticket, db.supportRequests.get? ticketId = some ticket ∧
      ((ticket.type ≠ .damage ∧ Custody.Step db.custody .idle db'.custody) ∨
        (ticket.type = .damage ∧ ∃ item, db.items.get? ticket.itemId = some item ∧
          Custody.Step db.custody (.turn ticket.itemId item.status .underRepair) db'.custody)) := by
  obtain ⟨t, ht, hopened, t', ht', -, ⟨_, hrepair⟩, -⟩ := runs_start.mp h
  have hid : t'.id = ticketId := ht' ▸ Table.get?_key ht
  have hticket := Db.custody_ticket ht
  have hsame : (db.setSupportRequest t').custody = db.custody := by
    rw [Db.custody_setSupportRequest ht hid]
    refine State.setTicket_eq_self _ (hticket.trans ?_)
    simp [ht', SupportRequest.flushed_eq, SupportRequest.ticket, hopened]
  have hitemId : t'.itemId = t.itemId := ht' ▸ rfl
  have htype : t'.type = t.type := ht' ▸ rfl
  refine ⟨t, ht, ?_⟩
  rcases runs_startRepair.mp hrepair with ⟨hother, rfl⟩ | ⟨hdamage, i, hi, i', hi', -, _, -, -, rfl⟩
  · rw [hsame]
    exact .inl ⟨htype ▸ hother, .idle⟩
  · rw [hitemId] at hi
    have hiid : i'.id = t.itemId := hi' ▸ Table.get?_key hi
    have hi₀ : db.items.get? t.itemId = some i := hi
    refine .inr ⟨htype ▸ hdamage, i, hi₀, ?_⟩
    rw [Db.custody_appendLog, Db.custody_setItem hi hiid, hsame, hi']
    exact .turn (Db.custody_device hi₀)

theorem resolvedTicket_custody {ticket ticket' : SupportRequest} {l : DeviceLog}
    (ht : db.supportRequests.get? ticketId = some ticket) (hid : ticket'.id = ticketId)
    (hticket : ticket'.ticket = { ticket.ticket with resolved := true }) :
    ((db.setSupportRequest ticket').appendLog l).custody =
      db.custody.setTicket ticketId { ticket.ticket with resolved := true } := by
  rw [Db.custody_appendLog, Db.custody_setSupportRequest ht hid, hticket]

theorem repairInPlace_custody {ticket : SupportRequest} {item : Item}
    (hi : db.items.get? ticket.itemId = some item)
    (h : (repairInPlace ticket item actorId).Runs ctx db u db') :
    item.status = .underRepair ∧ db'.supportRequests = db.supportRequests ∧
      db'.custody = db.custody.setDevice ticket.itemId { item.custody with status := .assigned } := by
  obtain ⟨hstatus, i', hi', -, _, -, -, rfl⟩ := runs_repairInPlace.mp h
  have hiid : i'.id = ticket.itemId := hi' ▸ Table.get?_key hi
  refine ⟨hstatus, rfl, ?_⟩
  rw [Db.custody_appendLog, Db.custody_setItem hi hiid, hi']
  rfl

theorem swap_custody {ticket : SupportRequest} {item : Item} {newId : UUID} {next : DeviceStatus}
    (hi : db.items.get? ticket.itemId = some item)
    (h : (swap ticket item newId next actorId).Runs ctx db u db') :
    ∃ requestId request newItem, ticket.requestId = some requestId ∧
      db.requests.get? requestId = some request ∧ db.items.get? newId = some newItem ∧
      SwapTarget item newItem ∧ newId ≠ ticket.itemId ∧
      (¬ Ended request.status → db.custody.Exclusive requestId newId request.status) ∧
      db'.supportRequests = db.supportRequests ∧
      db'.custody = ((db.custody.setClaim requestId { request.claim with device := some newId }).setDevice
        ticket.itemId ⟨next, none⟩).setDevice newId ⟨.assigned, some request.requesterId⟩ := by
  obtain ⟨hne, q, hq, n, hn, hcategory, havail, r, hr, r', hr', hok, db₁, hdb₁, o', ho', -, db₂, hdb₂, n', hn', -,
    _, -, -, _, -, -, rfl⟩ := runs_swap.mp h
  have hiid : item.id = ticket.itemId := Table.get?_key hi
  have hnid : n.id = newId := Table.get?_key hn
  have htarget : SwapTarget item n := ⟨hnid ▸ hne, hcategory, havail⟩
  rw [hiid] at hne
  have hrid : r'.id = q := hr' ▸ Table.get?_key hr
  have hoid : o'.id = ticket.itemId := ho' ▸ hiid
  have hnid' : n'.id = newId := hn' ▸ hnid
  have hrstatus : r'.status = r.status := hr' ▸ rfl
  have hrdevice : r'.assignedItemId = some newId := hr' ▸ congrArg some hnid
  have hi₁ : db₁.items.get? ticket.itemId = some item := hdb₁ ▸ hi
  have hn₁ : db₁.items.get? newId = some n := hdb₁ ▸ hn
  have hn₂ : db₂.items.get? newId = some n := by
    rw [hdb₂]
    exact (Table.get?_set_of_ne (show newId ≠ o'.id from hoid ▸ hne)).trans hn₁
  refine ⟨q, r, n, hq, hr, hn, htarget, hne, fun hopen => ?_, by rw [hdb₂, hdb₁]; rfl, ?_⟩
  · rw [← hrid, ← hrstatus]
    exact exclusive_of_constraints hok (hrstatus ▸ hopen) hrdevice
  · have hclaim : r'.claim = { r.claim with device := some newId } := by
      rw [hr', ← hnid]
      rfl
    have hold : o'.custody = ⟨next, none⟩ := ho' ▸ rfl
    have hnew : n'.custody = ⟨.assigned, some r.requesterId⟩ := hn' ▸ rfl
    rw [Db.custody_appendLog, Db.custody_appendLog, Db.custody_setItem hn₂ hnid', hdb₂,
      Db.custody_setItem hi₁ hoid, hdb₁, Db.custody_setRequest hr hrid, hclaim, hold, hnew]

theorem markLost_custody {ticket : SupportRequest} {item : Item}
    (hi : db.items.get? ticket.itemId = some item)
    (h : (markLost ticket item actorId).Runs ctx db u db') :
    ∃ requestId request, ticket.requestId = some requestId ∧
      db.requests.get? requestId = some request ∧ db'.supportRequests = db.supportRequests ∧
      db'.custody = (db.custody.setDevice ticket.itemId { item.custody with status := .lost }).setClaim
        requestId { request.claim with status := .completed } := by
  obtain ⟨q, hq, r, hr, i', hi', -, r', hr', -, _, -, -, rfl⟩ := runs_markLost.mp h
  have hiid : i'.id = ticket.itemId := hi' ▸ Table.get?_key hi
  have hrid : r'.id = q := hr' ▸ Table.get?_key hr
  have hr₁ : (db.setItem i').requests.get? q = some r := hr
  have hclaim : r'.claim = { r.claim with status := .completed } := hr' ▸ rfl
  have hlost : i'.custody = { item.custody with status := .lost } := hi' ▸ rfl
  refine ⟨q, r, hq, hr, rfl, ?_⟩
  rw [Db.custody_appendLog, Db.custody_setRequest hr₁ hrid, Db.custody_setItem hi hiid, hclaim, hlost]

theorem resolve_refines {resolution : SupportResolution} {note : Option String} {newId : Option UUID}
    {next : Option DeviceStatus}
    (h : (resolve ticketId resolution note newId next actorId).Runs ctx db row db') :
    ∃ a, Op.Performs ctx db (.resolve ticketId resolution note newId next actorId) a ∧
      Custody.Step db.custody a db'.custody := by
  obtain ⟨t, ht, hopen, i, hi, _, db₁, happly, t', ht', -, -, -, rfl⟩ := runs_resolve.mp h
  have hid : t'.id = ticketId := ht' ▸ Table.get?_key ht
  have hticket : t'.ticket = { t.ticket with resolved := true } := ht' ▸ rfl
  have hunresolved : t.ticket.resolved = false := by simp [SupportRequest.ticket, hopen]
  have hcticket := Db.custody_ticket ht
  cases resolution with
  | remoteResolved =>
    simp only [applyResolution, runs_pure] at happly
    obtain ⟨-, rfl⟩ := happly
    rw [resolvedTicket_custody ht hid hticket]
    exact ⟨_, .remoteResolved, .closeTicket hcticket hunresolved⟩
  | repairedInPlace =>
    obtain ⟨hstatus, htickets, hcustody⟩ := repairInPlace_custody hi happly
    rw [resolvedTicket_custody (htickets ▸ ht) hid hticket, hcustody]
    exact ⟨_, .repairedInPlace ht hopen hi hstatus, .repair hcticket hunresolved (Db.custody_device hi) hstatus⟩
  | swapped =>
    simp only [applyResolution, runs_bind, runs_orRaise] at happly
    obtain ⟨n, _, ⟨rfl, rfl⟩, s, _, ⟨rfl, rfl⟩, happly⟩ := happly
    obtain ⟨q, r, m, hq, hr, hm, htarget, hne, hexcl, htickets, hcustody⟩ := swap_custody hi happly
    rw [resolvedTicket_custody (htickets ▸ ht) hid hticket, hcustody]
    have hshape : t.ticket = ⟨t.itemId, some q, false⟩ := by
      simp [SupportRequest.ticket, hq, hopen]
    rw [hshape] at hcticket ⊢
    exact ⟨_, .swapped ht hopen hi hm htarget hq hr, .swap hcticket (Db.custody_claim hr)
      (Db.custody_device hi) (Db.custody_device hm) htarget.2.2 hne hexcl⟩
  | markedLost =>
    obtain ⟨q, r, hq, hr, htickets, hcustody⟩ := markLost_custody hi happly
    rw [resolvedTicket_custody (htickets ▸ ht) hid hticket, hcustody]
    have hshape : t.ticket = ⟨t.itemId, some q, false⟩ := by
      simp [SupportRequest.ticket, hq, hopen]
    rw [hshape] at hcticket ⊢
    exact ⟨_, .markedLost ht hopen hq hr, .lose hcticket (Db.custody_claim hr) (Db.custody_device hi)⟩

end SupportService

/-! ### Extensions -/

namespace ExtensionService

variable {extensionId : UUID} {note : Option String} {row : ExtensionRequest}

theorem approve_refines (h : (approve extensionId note actorId).Runs ctx db row db') :
    Custody.Step db.custody .idle db'.custody := by
  obtain ⟨x, -, -, -, r, hr, r', hr', -, x', -, -, _, -, _, -, -, -, rfl⟩ := runs_approve.mp h
  have hid : r'.id = x.originalRequestId := hr' ▸ Table.get?_key hr
  have hclaim : r'.claim = r.claim := hr' ▸ rfl
  rw [Db.custody_appendLog, Db.custody_setExtensionRequest, Db.custody_setRequest hr hid, hclaim,
    State.setClaim_eq_self _ (Db.custody_claim hr)]
  exact .idle

theorem reject_refines (h : (reject extensionId note actorId).Runs ctx db row db') :
    Custody.Step db.custody .idle db'.custody := by
  obtain ⟨x, -, -, r, -, x', -, -, _, -, _, -, -, -, rfl⟩ := runs_reject.mp h
  rw [Db.custody_appendLog, Db.custody_setExtensionRequest]
  exact .idle

end ExtensionService

/-! ### Users -/

namespace UserService

variable {userId : UUID} {row : UserResult}

theorem insertUser_refines {name email password : String} {role : UserRole} {user : User}
    (h : (insertUser name email role password).Runs ctx db user db') :
    Custody.Step db.custody (.addUser (ctx.uuid4 0)) db'.custody := by
  obtain ⟨-, _, -, hfresh, -, hu, rfl⟩ := runs_insertUser.mp h
  have hid : user.id = ctx.uuid4 0 := hu ▸ rfl
  have hactive : user.isActive = true := hu ▸ rfl
  rw [Db.custody_addUser hfresh hid, hactive]
  exact .addUser (congrArg (Option.map User.isActive) hfresh)

theorem changeRole_refines {role : UserRole} (h : (changeRole userId role).Runs ctx db row db') :
    Custody.Step db.custody .idle db'.custody := by
  obtain ⟨v, hv, v', hv', -, -, rfl⟩ := runs_changeRole.mp h
  have hid : v'.id = userId := hv' ▸ Table.get?_key hv
  have hactive : v'.isActive = v.isActive := hv' ▸ rfl
  rw [Db.custody_setUser hv hid, hactive, State.setActive_eq_self _ (Db.custody_active hv)]
  exact .idle

theorem deactivate_refines (h : (deactivate userId).Runs ctx db row db') :
    Custody.Step db.custody (.setActive userId false) db'.custody := by
  obtain ⟨v, hv, ⟨hitems, hrequests⟩, v', hv', -, -, rfl⟩ := runs_deactivate.mp h
  have hvid : v.id = userId := Table.get?_key hv
  have hid : v'.id = userId := hv' ▸ hvid
  have hactive : v'.isActive = false := hv' ▸ rfl
  rw [hvid] at hitems hrequests
  rw [Db.custody_setUser hv hid, hactive]
  refine .setActive (Db.custody_active hv) fun _ => ⟨fun d x hd => ?_, fun r x hr hx => ?_⟩
  · obtain ⟨i, hi, rfl⟩ := Db.custody_device_eq_some.mp hd
    exact hitems i (Table.get?_mem hi)
  · obtain ⟨q, hq, rfl⟩ := Db.custody_claim_eq_some.mp hr
    by_contra hopen
    exact hrequests q (Table.get?_mem hq) hx (mem_NON_TERMINAL_REQUEST_STATUSES.mpr hopen)

theorem activate_refines (h : (activate userId).Runs ctx db row db') :
    Custody.Step db.custody (.setActive userId true) db'.custody := by
  obtain ⟨v, hv, v', hv', -, -, rfl⟩ := runs_activate.mp h
  have hid : v'.id = userId := hv' ▸ Table.get?_key hv
  have hactive : v'.isActive = true := hv' ▸ rfl
  rw [Db.custody_setUser hv hid, hactive]
  exact .setActive (Db.custody_active hv) nofun

end UserService

/-! ### Every operation -/

/-- **A service call that commits is a step of custody.** -/
theorem Op.refines {op : Op} (h : op.run.Runs ctx db () db') :
    ∃ a, op.Performs ctx db a ∧ Custody.Step db.custody a db'.custody := by
  cases op <;> obtain ⟨row, h⟩ := runs_discard.mp h
  case createItem => exact ⟨_, .createItem, InventoryService.createItem_refines h⟩
  case editItem => exact ⟨_, .editItem, InventoryService.editItem_refines h⟩
  case changeStatus =>
    obtain ⟨i, hi, hstep⟩ := InventoryService.changeStatus_refines h
    exact ⟨_, .changeStatus hi, hstep⟩
  case updateBookingRange => exact ⟨_, .updateBookingRange, AssignmentService.updateBookingRange_refines h⟩
  case assign => exact ⟨_, .assign, AssignmentService.assign_refines h⟩
  case directAssign => exact ⟨_, .directAssign, AssignmentService.directAssign_refines h⟩
  case reject =>
    obtain ⟨r, hr, hstatus, hstep⟩ := RequestService.reject_refines h
    exact ⟨_, .reject hr hstatus, hstep⟩
  case cancel =>
    obtain ⟨r, hr, hstep⟩ := RequestService.cancel_refines h
    exact ⟨_, .cancel hr, hstep⟩
  case escalateToManager =>
    obtain ⟨r, hr, hstatus, hstep⟩ := RequestService.escalateToManager_refines h
    exact ⟨_, .escalateToManager hr hstatus, hstep⟩
  case ship =>
    obtain ⟨r, i, d, hr, hd, hi, hstatus, hstep⟩ := ShippingService.ship_refines h
    exact ⟨_, .ship hr hd hi hstatus, hstep⟩
  case confirmDelivery =>
    obtain ⟨r, i, d, hr, hd, hi, hstatus, hstep⟩ := ShippingService.confirmDelivery_refines h
    exact ⟨_, .confirmDelivery hr hd hi hstatus, hstep⟩
  case completeReturn =>
    obtain ⟨r, i, d, hr, hd, hi, hstatus, hstep⟩ := ShippingService.completeReturn_refines h
    exact ⟨_, .completeReturn hr hd hi hstatus, hstep⟩
  case start =>
    obtain ⟨t, ht, ⟨-, hstep⟩ | ⟨-, i, hi, hstep⟩⟩ := SupportService.start_refines h
    · exact ⟨_, .start, hstep⟩
    · exact ⟨_, .startRepair ht hi, hstep⟩
  case resolve => exact SupportService.resolve_refines h
  case approveExtension => exact ⟨_, .approveExtension, ExtensionService.approve_refines h⟩
  case rejectExtension => exact ⟨_, .rejectExtension, ExtensionService.reject_refines h⟩
  case createUser =>
    obtain ⟨user, hinsert, -⟩ := UserService.runs_createUser.mp h
    exact ⟨_, .createUser, UserService.insertUser_refines hinsert⟩
  case changeRole => exact ⟨_, .changeRole, UserService.changeRole_refines h⟩
  case deactivate => exact ⟨_, .deactivate, UserService.deactivate_refines h⟩
  case activate => exact ⟨_, .activate, UserService.activate_refines h⟩
  case register =>
    obtain ⟨user, hinsert⟩ := AuthService.runs_register h
    exact ⟨_, .register, UserService.insertUser_refines hinsert⟩

theorem PortalStep.refines {step : PortalStep} (h : step.run.Runs ctx db () db') :
    ∃ a, step.Performs db a ∧ Custody.Step db.custody a db'.custody := by
  cases step with
  | fileRequest r =>
    obtain ⟨⟨hdevice, hstatus⟩, r', hfresh, -, hr', rfl⟩ := runs_fileRequest.mp h
    have hid : r'.id = r.id := hr' ▸ rfl
    have hclaim : r'.claim = ⟨r.requesterId, r.status, none⟩ := by
      rw [hr', ← hdevice]
      rfl
    have hqueue : r.status ≠ .assigned ∧ ¬ Ended r.status := by
      revert hstatus
      cases r.status <;> simp [_FILED_STATUSES, Ended]
    refine ⟨_, .fileRequest, ?_⟩
    rw [Db.custody_addRequest hfresh hid, hclaim]
    exact .addClaim (congrArg (Option.map Request.claim) hfresh) hqueue
  | submitRequest q s =>
    obtain ⟨r, hr, ⟨hstatus, hs⟩, r', hok, hr', rfl⟩ := runs_submitRequest.mp h
    have hid : r'.id = q := hr' ▸ Table.get?_key hr
    refine ⟨_, .submitRequest hr hstatus, decide_refines hr hid (hr' ▸ rfl) hok ?_ ?_ fun ha => ?_⟩
    · rw [hstatus]
      decide
    · rcases hs with rfl | rfl <;> decide
    · exact absurd (hstatus.symm.trans ha) (by decide)
  | decideRequest q approved note now =>
    obtain ⟨r, hr, hstatus, r', hok, hr', rfl⟩ := runs_decideRequest.mp h
    have hid : r'.id = q := hr' ▸ Table.get?_key hr
    refine ⟨_, .decideRequest hr hstatus, decide_refines hr hid (hr' ▸ rfl) hok ?_ ?_ fun ha => ?_⟩
    · rw [hstatus]
      decide
    · cases approved <;> decide
    · exact absurd (hstatus.symm.trans ha) (by decide)
  | fileTicket t =>
    obtain ⟨hopened, t', hfresh, -, ht', rfl⟩ := runs_fileTicket.mp h
    have hid : t'.id = t.id := ht' ▸ rfl
    have hticket : t'.ticket = ⟨t.itemId, t.requestId, false⟩ := by
      rw [ht']
      exact SupportRequest.ticket_of_opened hopened
    refine ⟨_, .fileTicket, ?_⟩
    rw [Db.custody_addSupportRequest hfresh hid, hticket]
    exact .openTicket (congrArg (Option.map SupportRequest.ticket) hfresh)
  | fileExtension x =>
    obtain ⟨-, x', -, -, -, rfl⟩ := runs_fileExtension.mp h
    exact ⟨_, .fileExtension, .idle⟩
  | decideExtension q approved note now =>
    obtain ⟨x, -, -, x', -, -, rfl⟩ := runs_decideExtension.mp h
    exact ⟨_, .decideExtension, .idle⟩
  | initiateReturn q url now =>
    obtain ⟨r, hr, i, ⟨d, hd, hi⟩, hguard, r', hr', -, i', hi', -, rfl⟩ := runs_initiateReturn.mp h
    have hrid : r'.id = q := hr' ▸ Table.get?_key hr
    have hiid : i'.id = d := hi' ▸ Table.get?_key hi
    exact ⟨_, .initiateReturn hr hd hi hguard.2.2 ⟨hguard.1, hguard.2.1⟩,
      turn_refines hr hrid (hr' ▸ rfl) hi hiid (hi' ▸ rfl)⟩

/-- **Every event that commits is a step of custody.** -/
theorem Event.refines {e : Event} (h : e.Commits db db') :
    ∃ a, e.Performs db a ∧ Custody.Step db.custody a db'.custody := by
  cases h with
  | service h =>
    obtain ⟨a, ha, hstep⟩ := Op.refines h
    exact ⟨a, .service ha, hstep⟩
  | portal h =>
    obtain ⟨a, ha, hstep⟩ := PortalStep.refines h
    exact ⟨a, .portal ha, hstep⟩

end AssetPilot
