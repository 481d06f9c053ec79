import AssetPilot.Effects.Requests
import AssetPilot.Effects.Tickets
import AssetPilot.Effects.Extensions

/-!
# What a committed event does

One inversion of every operation and every step of the employees and managers, into its effect on the
requests, the tickets and the extensions.
-/

namespace AssetPilot

open Relational Txn

variable {ctx : Ctx} {db db' : Db} {e : Event}

/-- The effect of an event on the three tables. -/
structure Event.Effects (db : Db) (e : Event) (db' : Db) : Prop where
  requests : e.RequestsStep db db'
  tickets : e.TicketsStep db db'
  extensions : e.ExtensionsStep db db'

/-- The row neither closes a ticket nor decides an extension. -/
def DeviceLog.Undecided (l : DeviceLog) : Prop := l.closedTicket = none ∧ l.decidedExtension = none

theorem closedTickets_append (xs ys : List DeviceLog) :
    closedTickets (xs ++ ys) = closedTickets xs ++ closedTickets ys := List.filterMap_append

theorem decidedExtensions_append (xs ys : List DeviceLog) :
    decidedExtensions (xs ++ ys) = decidedExtensions xs ++ decidedExtensions ys := List.filterMap_append

theorem append_undecided (xs : List DeviceLog) {rows : List DeviceLog} (h : ∀ l ∈ rows, l.Undecided) :
    closedTickets (xs ++ rows) = closedTickets xs ∧ decidedExtensions (xs ++ rows) = decidedExtensions xs := by
  have hclosed : closedTickets rows = [] := List.filterMap_eq_nil_iff.mpr fun l hl => (h l hl).1
  have hdecided : decidedExtensions rows = [] := List.filterMap_eq_nil_iff.mpr fun l hl => (h l hl).2
  rw [closedTickets_append, decidedExtensions_append, hclosed, hdecided, List.append_nil, List.append_nil]
  exact ⟨rfl, rfl⟩

theorem append_undecided_row (xs : List DeviceLog) {l : DeviceLog} (h : l.Undecided) :
    closedTickets (xs ++ [l]) = closedTickets xs ∧ decidedExtensions (xs ++ [l]) = decidedExtensions xs :=
  append_undecided xs fun _ hx => List.mem_singleton.mp hx ▸ h

theorem log_of_undecided {rows : List DeviceLog} (hlog : db'.deviceLog = db.deviceLog ++ rows)
    (h : ∀ l ∈ rows, l.Undecided) :
    closedTickets db'.deviceLog = closedTickets db.deviceLog ∧
      decidedExtensions db'.deviceLog = decidedExtensions db.deviceLog := by
  rw [hlog]
  exact append_undecided _ h

theorem Event.Effects.of_undecided {rows : List DeviceLog} (hrequests : e.RequestsStep db db')
    (htickets : db'.supportRequests = db.supportRequests)
    (hextensions : db'.extensionRequests = db.extensionRequests)
    (hlog : db'.deviceLog = db.deviceLog ++ rows) (h : ∀ l ∈ rows, l.Undecided) : e.Effects db db' :=
  ⟨hrequests, .same htickets (log_of_undecided hlog h).1, .same hextensions (log_of_undecided hlog h).2⟩

theorem Event.Effects.of_same (hrequests : e.RequestsStep db db')
    (htickets : db'.supportRequests = db.supportRequests)
    (hextensions : db'.extensionRequests = db.extensionRequests)
    (hlog : db'.deviceLog = db.deviceLog) : e.Effects db db' :=
  .of_undecided hrequests htickets hextensions (by rw [hlog, List.append_nil])
    (fun _ hl => absurd hl List.not_mem_nil)

theorem Event.Effects.of_row {l : DeviceLog} (hrequests : e.RequestsStep db db')
    (htickets : db'.supportRequests = db.supportRequests)
    (hextensions : db'.extensionRequests = db.extensionRequests)
    (hlog : db'.deviceLog = db.deviceLog ++ [l]) (h : l.Undecided) : e.Effects db db' :=
  .of_undecided hrequests htickets hextensions hlog fun _ hx => List.mem_singleton.mp hx ▸ h

theorem InventoryService.statusLog_undecided {itemId actorId : UUID} {status fromStatus : DeviceStatus}
    {note : Option String} :
    ((statusLog itemId status fromStatus note actorId).written ctx).Undecided := by
  cases status <;> exact ⟨rfl, rfl⟩

theorem ShippingService.completeReturn_effects {requestId actorId : UUID} {next : DeviceStatus} {row : Request}
    (h : (completeReturn requestId next actorId).Runs ctx db row db') :
    (Event.service ctx (.completeReturn requestId next actorId)).Effects db db' := by
  obtain ⟨r, hr, i, ⟨d, hd, hi⟩, hstatus, r', hr', -, i', -, -, l, rfl, -, l', rfl, -, ⟨_, hclose⟩, -⟩ :=
    runs_completeReturn.mp h
  obtain ⟨ts, hnodup, hts, hclosed⟩ := cascade_of_runs hclose
  have hrow := append_undecided_row db.deviceLog (l := (shippingLog .returnReceived i'.id r'.id actorId
    i.status next none).written ctx) ⟨rfl, rfl⟩
  have hrow' := append_undecided_row (db.deviceLog ++ [(shippingLog .returnReceived i'.id r'.id actorId
    i.status next none).written ctx]) (l := (completionLog i'.id r'.id actorId).written ctx) ⟨rfl, rfl⟩
  refine ⟨.of_set hr hr' ?_ hclosed.requests,
    .autoClose rfl hts hnodup hclosed.others hclosed.closed ?_, .same ?_ ?_⟩
  · rintro rfl
    exact .service (.completeReturn hd hi hstatus)
  · rw [hclosed.deviceLog, closedTickets_append, closedTickets_cascade]
    exact congrArg (· ++ ts.map SupportRequest.id) (hrow'.1.trans hrow.1)
  · rw [hclosed.frame]
    rfl
  · have hrows : decidedExtensions (ts.map fun t => (closedLog i'.id t.id).written ctx) = [] := by
      refine List.filterMap_eq_nil_iff.mpr fun x hx => ?_
      obtain ⟨t, -, rfl⟩ := List.mem_map.mp hx
      rfl
    rw [hclosed.deviceLog, decidedExtensions_append, hrows, List.append_nil]
    exact hrow'.2.trans hrow.2

theorem SupportService.start_effects {ticketId actorId : UUID} {row : SupportRequest}
    (h : (start ticketId actorId).Runs ctx db row db') :
    (Event.service ctx (.start ticketId actorId)).Effects db db' := by
  obtain ⟨t, ht, hopen, t', ht', -, ⟨_, hrepair⟩, -⟩ := runs_start.mp h
  obtain rfl : t.id = ticketId := Table.get?_key ht
  have hset : db.supportRequests.set t' = _ := congrArg _ (ht'.trans (SupportRequest.flushed_eq ..))
  rcases runs_startRepair.mp hrepair with ⟨-, rfl⟩ | ⟨-, i, -, i', -, -, l, rfl, -, rfl⟩
  · exact ⟨.same rfl, .start rfl ht hopen hset rfl, .same rfl rfl⟩
  · have hrow := append_undecided_row db.deviceLog (l := (ticketLog .statusChanged i.id none t'.id actorId
      i.status .underRepair).written ctx) ⟨rfl, rfl⟩
    exact ⟨.same rfl, .start rfl ht hopen hset hrow.1, .same rfl hrow.2⟩

theorem SupportService.applyResolution_effects {ticketId actorId : UUID} {t : SupportRequest} {i : Item}
    {resolution : SupportResolution} (note : Option String) {newId : Option UUID}
    {next : Option DeviceStatus} {u : Unit} (ht : db.supportRequests.get? ticketId = some t)
    (hopen : t.status ≠ .resolved) (hi : db.items.get? t.itemId = some i)
    (h : (applyResolution t i resolution newId next actorId).Runs ctx db u db') :
    (Event.service ctx (.resolve ticketId resolution note newId next actorId)).RequestsStep db db' ∧
      db'.supportRequests = db.supportRequests ∧ db'.extensionRequests = db.extensionRequests ∧
        ∃ rows, db'.deviceLog = db.deviceLog ++ rows ∧ ∀ l ∈ rows, l.Undecided := by
  cases resolution with
  | remoteResolved =>
    simp only [applyResolution, runs_pure] at h
    obtain ⟨-, rfl⟩ := h
    exact ⟨.same rfl, rfl, rfl, [], (List.append_nil _).symm, fun _ hl => absurd hl List.not_mem_nil⟩
  | repairedInPlace =>
    obtain ⟨-, i', -, -, l, rfl, -, rfl⟩ := runs_repairInPlace.mp h
    exact ⟨.same rfl, rfl, rfl, _, rfl, fun x hx => List.mem_singleton.mp hx ▸ ⟨rfl, rfl⟩⟩
  | swapped =>
    simp only [applyResolution, runs_bind, runs_orRaise] at h
    obtain ⟨n, _, ⟨rfl, rfl⟩, s, _, ⟨rfl, rfl⟩, h⟩ := h
    obtain ⟨hne, p, hp, m, hm, hcategory, havail, r, hr, r', hr', -, db₂, rfl, o', -, -, db₃, rfl, n', -, -,
      l, rfl, -, l', rfl, -, rfl⟩ := runs_swap.mp h
    have hmid : m.id = n := Table.get?_key hm
    refine ⟨.of_set hr hr' ?_ rfl, rfl, rfl, _, List.append_assoc _ _ _, fun x hx => ?_⟩
    · rintro rfl
      exact .service (.swapped ht hopen hp hi hm ⟨hmid ▸ hne, hcategory, havail⟩)
    · rcases List.mem_append.mp hx with hx | hx <;> exact List.mem_singleton.mp hx ▸ ⟨rfl, rfl⟩
  | markedLost =>
    obtain ⟨p, hp, r, hr, i', -, -, r', hr', -, l, rfl, -, rfl⟩ := runs_markLost.mp h
    refine ⟨.of_set hr hr' ?_ rfl, rfl, rfl, _, rfl, fun x hx => List.mem_singleton.mp hx ▸ ⟨rfl, rfl⟩⟩
    rintro rfl
    exact .service (.markedLost ht hopen hp)

theorem SupportService.resolve_effects {ticketId actorId : UUID} {resolution : SupportResolution}
    {note : Option String} {newId : Option UUID} {next : Option DeviceStatus} {row : SupportRequest}
    (h : (resolve ticketId resolution note newId next actorId).Runs ctx db row db') :
    (Event.service ctx (.resolve ticketId resolution note newId next actorId)).Effects db db' := by
  obtain ⟨t, ht, hopen, i, hi, _, db₁, happly, t', ht', -, -, -, rfl⟩ := runs_resolve.mp h
  obtain ⟨hrequests, htickets, hextensions, rows, hlog, hrows⟩ := applyResolution_effects note ht hopen hi happly
  obtain rfl : t.id = ticketId := Table.get?_key ht
  obtain ⟨hclosed, hdecided⟩ := log_of_undecided hlog hrows
  have hset := congrArg db.supportRequests.set (ht'.trans (SupportRequest.flushed_eq ..))
  refine ⟨?_, .resolve rfl ht hopen ((congrArg (·.set t') htickets).trans hset) ?_, .same hextensions ?_⟩
  · cases hrequests with
    | same hsame => exact .same hsame
    | rewrite hr hw hset => exact .rewrite hr hw hset
    | create hfresh hc hinsert => exact .create hfresh hc hinsert
  · show closedTickets (db₁.deviceLog ++ [_]) = _
    rw [closedTickets_append, hclosed, show t.id = t'.id from ht' ▸ rfl]
    rfl
  · show decidedExtensions (db₁.deviceLog ++ [_]) = _
    rw [decidedExtensions_append, hdecided]
    exact List.append_nil _

namespace ExtensionService

variable {extensionId actorId : UUID} {note : Option String} {row : ExtensionRequest}

theorem approve_effects (h : (approve extensionId note actorId).Runs ctx db row db') :
    (Event.service ctx (.approveExtension extensionId note actorId)).Effects db db' := by
  obtain ⟨x, hx, hpending, hmgr, r, hr, r', hr', -, x', hx', -, d, hd, l, rfl, -, -, rfl⟩ :=
    runs_approve.mp h
  have hdevice : r.assignedItemId = some d := (hr' ▸ rfl : r.assignedItemId = r'.assignedItemId).trans hd
  have hid : x'.id = extensionId := hx' ▸ Table.get?_key hx
  refine ⟨.of_set hr hr' (fun hrid => ?_) rfl, .same rfl ?_, .of_review hx hx' ?_ rfl ?_⟩
  · exact .service (.approveExtension hx hpending hmgr hrid.symm hdevice)
  · exact (closedTickets_append _ _).trans (List.append_nil _)
  · rintro rfl
    exact .approve hpending hmgr
  · rw [← hid]
    exact decidedExtensions_append _ _

theorem reject_effects (h : (reject extensionId note actorId).Runs ctx db row db') :
    (Event.service ctx (.rejectExtension extensionId note actorId)).Effects db db' := by
  obtain ⟨x, hx, hpending, r, -, x', hx', -, d, -, l, rfl, -, -, rfl⟩ := runs_reject.mp h
  have hid : x'.id = extensionId := hx' ▸ Table.get?_key hx
  refine ⟨.same rfl, .same rfl ?_, .of_review hx hx' ?_ rfl ?_⟩
  · exact (closedTickets_append _ _).trans (List.append_nil _)
  · rintro rfl
    exact .reject hpending
  · rw [← hid]
    exact decidedExtensions_append _ _

end ExtensionService

/-- **What a committed call does** to the requests, the tickets and the extensions. -/
theorem Op.effects {op : Op} (h : op.run.Runs ctx db () db') : (Event.service ctx op).Effects db db' := by
  cases op <;> obtain ⟨row, h⟩ := runs_discard.mp h
  case createItem =>
    obtain ⟨-, -, -, i, -, -, -, -, rfl⟩ := InventoryService.runs_createItem.mp h
    exact .of_row (.same rfl) rfl rfl rfl ⟨rfl, rfl⟩
  case editItem =>
    obtain ⟨i, -, -, i', -, -, ⟨_, hlog⟩, -⟩ := InventoryService.runs_editItem.mp h
    rcases InventoryService.runs_logChanges.mp hlog with ⟨-, rfl⟩ | ⟨-, -, rfl⟩
    · exact .of_same (.same rfl) rfl rfl rfl
    · exact .of_row (.same rfl) rfl rfl rfl ⟨rfl, rfl⟩
  case changeStatus =>
    obtain ⟨i, -, i', -, -, l, rfl, -, -, rfl⟩ := InventoryService.runs_changeStatus.mp h
    exact .of_row (.same rfl) rfl rfl rfl InventoryService.statusLog_undecided
  case updateBookingRange =>
    obtain ⟨r, d, hr, hassigned, -, -, -, hrow, rfl⟩ := AssignmentService.runs_updateBookingRange.mp h
    refine .of_same (.of_set hr hrow ?_ rfl) rfl rfl rfl
    rintro rfl
    exact .service (.updateBookingRange hassigned)
  case assign =>
    obtain ⟨r, hr, hpending, i, hi, havail, hcategory, -, r', hr', -, i', -, -, -, -, rfl⟩ :=
      AssignmentService.runs_assign.mp h
    refine .of_row (.of_set hr hr' ?_ rfl) rfl rfl rfl ⟨rfl, rfl⟩
    rintro rfl
    exact .service (.assign hpending hi havail hcategory)
  case directAssign =>
    obtain ⟨i, hi, howner, havail, -, u, hu, hactive, r', hr', hfresh, -, i', -, -, -, -, rfl⟩ :=
      AssignmentService.runs_directAssign.mp h
    refine .of_row (.create (u := ctx.txTime) hfresh (.directAssign hi howner havail hu hactive) ?_) rfl rfl
      rfl ⟨rfl, rfl⟩
    rw [hr']
    rfl
  case reject =>
    obtain ⟨r, hr, hpending, -, hrow, rfl⟩ := RequestService.runs_reject.mp h
    refine .of_same (.of_set hr hrow ?_ rfl) rfl rfl rfl
    rintro rfl
    exact .service (.reject hpending)
  case cancel =>
    obtain ⟨r, hr, hopen, -, hrow, rfl⟩ := RequestService.runs_cancel.mp h
    refine .of_same (.of_set hr hrow ?_ rfl) rfl rfl rfl
    rintro rfl
    exact .service (.cancel hopen)
  case escalateToManager =>
    obtain ⟨r, hr, ⟨hpending, hrequires⟩, -, hrow, rfl⟩ := RequestService.runs_escalateToManager.mp h
    refine .of_same (.of_set hr hrow ?_ rfl) rfl rfl rfl
    rintro rfl
    exact .service (.escalateToManager hpending hrequires)
  case ship =>
    obtain ⟨r, hr, hwfh, i, ⟨d, hd, hi⟩, hstatus, r', hr', -, i', -, -, l, rfl, -, -, rfl⟩ :=
      ShippingService.runs_ship.mp h
    refine .of_row (.of_set hr hr' ?_ rfl) rfl rfl rfl ⟨rfl, rfl⟩
    rintro rfl
    exact .service (.ship hwfh hd hi hstatus)
  case confirmDelivery =>
    obtain ⟨r, hr, i, ⟨d, hd, hi⟩, hstatus, r', hr', -, i', -, -, l, rfl, -, -, rfl⟩ :=
      ShippingService.runs_confirmDelivery.mp h
    refine .of_row (.of_set hr hr' ?_ rfl) rfl rfl rfl ⟨rfl, rfl⟩
    rintro rfl
    exact .service (.confirmDelivery hd hi hstatus)
  case completeReturn => exact ShippingService.completeReturn_effects h
  case start => exact SupportService.start_effects h
  case resolve => exact SupportService.resolve_effects h
  case approveExtension => exact ExtensionService.approve_effects h
  case rejectExtension => exact ExtensionService.reject_effects h
  case createUser =>
    obtain ⟨user, hinsert, -⟩ := UserService.runs_createUser.mp h
    obtain ⟨-, _, -, -, -, -, rfl⟩ := UserService.runs_insertUser.mp hinsert
    exact .of_same (.same rfl) rfl rfl rfl
  case changeRole =>
    obtain ⟨v, -, v', -, -, -, rfl⟩ := UserService.runs_changeRole.mp h
    exact .of_same (.same rfl) rfl rfl rfl
  case deactivate =>
    obtain ⟨v, -, -, v', -, -, -, rfl⟩ := UserService.runs_deactivate.mp h
    exact .of_same (.same rfl) rfl rfl rfl
  case activate =>
    obtain ⟨v, -, v', -, -, -, rfl⟩ := UserService.runs_activate.mp h
    exact .of_same (.same rfl) rfl rfl rfl
  case register =>
    obtain ⟨user, hinsert⟩ := AuthService.runs_register h
    obtain ⟨-, _, -, -, -, -, rfl⟩ := UserService.runs_insertUser.mp hinsert
    exact .of_same (.same rfl) rfl rfl rfl

theorem PortalStep.effects {step : PortalStep} (h : step.run.Runs ctx db () db') :
    (Event.portal ctx step).Effects db db' := by
  cases step with
  | fileRequest r =>
    obtain ⟨hfiled, r', hfresh, -, hr', rfl⟩ := runs_fileRequest.mp h
    refine .of_same (.create (u := ctx.txTime) hfresh (.fileRequest hfiled) ?_) rfl rfl rfl
    rw [hr']
    rfl
  | submitRequest p s =>
    obtain ⟨r, hr, hguard, r', -, hr', rfl⟩ := runs_submitRequest.mp h
    refine .of_same (.of_set hr hr' ?_ rfl) rfl rfl rfl
    rintro rfl
    exact .portal (.submitRequest hguard.1 hguard.2)
  | decideRequest p approved note now =>
    obtain ⟨r, hr, hguard, r', -, hr', rfl⟩ := runs_decideRequest.mp h
    refine .of_same (.of_set hr hr' ?_ rfl) rfl rfl rfl
    rintro rfl
    exact .portal (.decideRequest hguard)
  | fileTicket t =>
    obtain ⟨hopen, t', hfresh, -, ht', rfl⟩ := runs_fileTicket.mp h
    refine ⟨.same rfl, .file (u := ctx.txTime) rfl hfresh hopen ?_ rfl, .same rfl rfl⟩
    rw [ht']
    rfl
  | fileExtension x =>
    obtain ⟨hpending, x', hfresh, -, hx', rfl⟩ := runs_fileExtension.mp h
    refine ⟨.same rfl, .same rfl rfl, .file (u := ctx.txTime) rfl hfresh hpending ?_ rfl⟩
    rw [hx']
    rfl
  | decideExtension p approved note now =>
    obtain ⟨x, hx, hmgr, x', -, hx', rfl⟩ := runs_decideExtension.mp h
    obtain rfl : x.id = p := Table.get?_key hx
    exact ⟨.same rfl, .same rfl rfl, .manage rfl hx hmgr
      (congrArg db.extensionRequests.set (hx'.trans (ExtensionRequest.flushed_eq ..))) rfl⟩
  | initiateReturn p url now =>
    obtain ⟨r, hr, i, ⟨d, hd, hi⟩, hguard, r', hr', -, i', -, -, rfl⟩ := runs_initiateReturn.mp h
    refine .of_same (.of_set hr hr' ?_ rfl) rfl rfl rfl
    rintro rfl
    exact .portal (.initiateReturn hd hi hguard)

/-- **What a committed event does.** -/
theorem Event.Commits.effects (h : e.Commits db db') : e.Effects db db' := by
  cases h with
  | service h => exact Op.effects h
  | portal h => exact PortalStep.effects h

end AssetPilot
