import AssetPilot.Invariants.Answers
import AssetPilot.Invariants.OneClaim
import AssetPilot.Invariants.Ownership

/-!
# No dead ends

Whatever has happened to a device, five calls bring it back to the pool: IT cancels the booking on it, sets it
available, hands it out on a request of its own and takes it back. Each of them is accepted, and nothing else is
touched.
-/

namespace AssetPilot

open Relational System Txn
open SQLAlchemyRepository (flushed born)

variable {ctx : Ctx} {db db' db'' : Db} {itemId requestId actorId : UUID} {f t : Datetime}

/-- The device is in the pool, and nobody's. -/
structure Db.Pooled (db : Db) (itemId : UUID) : Prop where
  item : ∃ i, db.items.get? itemId = some i ∧ i.status = .available ∧ i.currentOwnerId = none
  unbooked : ∀ r ∈ db.requests, ¬ r.IsBookingFor itemId
  tickets : ∀ t ∈ db.supportRequests, t.itemId = itemId → t.status = .resolved

/-- The other devices with their tickets are as they were, and so are the requests that do not book this one, apart
from the request `requestId`. -/
structure Spares (itemId requestId : UUID) (db db' : Db) : Prop where
  keys : db.KeysKept db'
  items : ∀ k, k ≠ itemId → db'.items.get? k = db.items.get? k
  requests : ∀ k r, db.requests.get? k = some r → k ≠ requestId → ¬ r.IsBookingFor itemId →
    db'.requests.get? k = some r
  tickets : ∀ k t, db.supportRequests.get? k = some t → t.itemId ≠ itemId → db'.supportRequests.get? k = some t

theorem Spares.refl (db : Db) : Spares itemId requestId db db :=
  ⟨.refl db, fun _ _ => rfl, fun _ _ hr _ _ => hr, fun _ _ ht _ => ht⟩

theorem Spares.trans (h : Spares itemId requestId db db') (h' : Spares itemId requestId db' db'') :
    Spares itemId requestId db db'' where
  keys := h.keys.trans h'.keys
  items k hk := (h'.items k hk).trans (h.items k hk)
  requests k r hr hk hunbooked := h'.requests k r (h.requests k r hr hk hunbooked) hk hunbooked
  tickets k t ht hother := h'.tickets k t (h.tickets k t ht hother) hother

namespace Spares

theorem setRequest {r r' : Request} (hr : db.requests.get? r'.id = some r)
    (hwritten : r.IsBookingFor itemId ∨ r'.id = requestId) : Spares itemId requestId db (db.setRequest r') where
  keys := .setRequest r'
  items _ _ := rfl
  requests k x hx hk hunbooked := by
    refine (Table.get?_set_of_ne fun hid => ?_).trans hx
    rcases hwritten with hbooking | hown
    · obtain rfl := Option.some.inj (hr.symm.trans (hid ▸ hx))
      exact hunbooked hbooking
    · exact hk (hid.trans hown)
  tickets _ _ ht _ := ht

theorem addRequest {r : Request} (hfresh : db.requests.get? r.id = none) :
    Spares itemId requestId db (db.addRequest r) where
  keys := .addRequest hfresh
  items _ _ := rfl
  requests k x hx _ _ := by
    refine (Table.get?_insert hfresh k).trans ((if_neg ?_).trans hx)
    rintro rfl
    exact Option.some_ne_none x (hx.symm.trans hfresh)
  tickets _ _ ht _ := ht

theorem setItem {i : Item} (hid : i.id = itemId) : Spares itemId requestId db (db.setItem i) where
  keys := .setItem i
  items _ hk := Table.get?_set_of_ne fun hk' => hk (hk'.trans hid)
  requests _ _ hr _ _ := hr
  tickets _ _ ht _ := ht

theorem appendLog (l : DeviceLog) : Spares itemId requestId db (db.appendLog l) :=
  ⟨.appendLog l, fun _ _ => rfl, fun _ _ hr _ _ => hr, fun _ _ ht _ => ht⟩

end Spares

theorem Db.Coherent.booking_unique {x r : Request} (h : db.Coherent) (hx : x ∈ db.requests) (hr : r ∈ db.requests)
    (hxb : x.IsBookingFor itemId) (hrb : r.IsBookingFor itemId) : x.id = r.id := by
  by_contra hne
  refine (Request.constraints_iff.mp (h.requests r hr)).1 x hx hne ⟨?_, ?_, ?_, ?_⟩
  · rw [hrb.2]
    rfl
  · rw [hrb.1]
    exact Option.some_ne_none itemId
  · exact hxb.1.trans hrb.1.symm
  · exact hxb.2.trans hrb.2.symm

/-! ### The calls -/

/-- The booking on the device. -/
def Db.bookingFor (db : Db) (itemId : UUID) : Option Request := db.requests.rows.find? (·.IsBookingFor itemId)

/-- The request on which the device is handed out. -/
def recallRequest (requestId requesterId categoryId : UUID) (f t : Datetime) : Request where
  id := requestId
  requesterId := requesterId
  categoryId := categoryId
  requestedFrom := f
  requestedTo := t
  status := .pendingItApproval

/-- How IT gets the device back; every call has its own context. -/
def Db.recall (db : Db) (ctxs : Nat → Ctx) (i : Item) (requestId actorId : UUID) (f t : Datetime) : List Event :=
  ((db.bookingFor i.id).map fun r => Event.service (ctxs 0) (.cancel r.id "Recalled." actorId)).toList ++
    [.service (ctxs 1) (.changeStatus i.id .available none actorId),
      .portal (ctxs 2) (.fileRequest (recallRequest requestId actorId i.categoryId f t)),
      .service (ctxs 3) (.assign requestId i.id f t false actorId),
      .service (ctxs 4) (.completeReturn requestId .available actorId)]

/-- The events, one after the other. -/
def Db.after (db : Db) (events : List Event) : Db := events.foldl (fun s e => e.exec s) db

theorem Db.Coherent.cancel_commits {r : Request} {reason : String} (h : db.Coherent)
    (hactor : db.users.References actorId) (hr : r ∈ db.requests) (hbooking : r.IsBookingFor itemId) :
    ∃ db', (Event.service ctx (.cancel r.id reason actorId)).exec db = db' ∧ db'.Coherent ∧
      Spares itemId requestId db db' ∧ db'.items = db.items ∧ (∀ x ∈ db'.requests, ¬ x.IsBookingFor itemId) ∧
        (db.requests.get? requestId = none → db'.requests.get? requestId = none) := by
  have hstored : db.requests.get? r.id = some r := Table.mem_iff_get?.mp hr
  have hr' : Model.constraints db
      (flushed ctx db (RequestService.cancelledRequest r reason actorId (ctx.clock 0))) = .ok () := by
    refine h.request_ok hstored rfl (.inl rfl) ?_
    rintro ⟨h₁, h₂, h₃, h₄, h₅, -, h₇⟩
    exact ⟨h₁, h₂, h₃, h₄, h₅, hactor, h₇⟩
  have hruns : (RequestService.cancel r.id reason actorId).Runs ctx db _ _ :=
    RequestService.runs_cancel.mpr ⟨r, hstored, hbooking.2 ▸ by decide, hr', rfl, rfl⟩
  refine ⟨_, (runs_discard.mpr ⟨_, hruns⟩ : (Op.cancel r.id reason actorId).run.Runs ctx db () _).exec,
    h.setRequest hr', .setRequest hstored (.inl hbooking), rfl, fun x hx hxb => ?_,
    fun hfresh => Table.get?_set_eq_none.mpr hfresh⟩
  rcases Table.mem_set.mp hx with ⟨rfl, -⟩ | ⟨hx, hne⟩
  · exact absurd hxb.2 (of_decide_eq_true rfl)
  · exact hne (h.booking_unique (r := r) hx hr hxb hbooking)

theorem Db.Coherent.changeStatus_commits {i : Item} (ctx : Ctx) (requestId : UUID) (note : Option String)
    (h : db.Coherent) (hactor : db.users.References actorId) (hi : db.items.get? itemId = some i) :
    ∃ db' i', (Event.service ctx (.changeStatus itemId .available note actorId)).exec db = db' ∧ db'.Coherent ∧
      Spares itemId requestId db db' ∧ db'.requests = db.requests ∧ db'.items.get? itemId = some i' ∧
        i'.status = .available ∧ i'.categoryId = i.categoryId := by
  obtain rfl : i.id = itemId := Table.get?_key hi
  have hi' : Model.constraints db (flushed ctx db (i.setStatus .available)) = .ok () := h.setStatus_ok hi db
  have hlog : (db.setItem (flushed ctx db (i.setStatus .available))).DeviceLogIntegral
      (InventoryService.statusLog i.id .available i.status note actorId).row :=
    (Db.KeysKept.setItem _).deviceLogIntegral ⟨Table.references_of_get? hi, hactor, Table.references_none,
      Table.references_none, Table.references_none, Table.references_none⟩
  have hruns : (InventoryService.changeStatus i.id .available note actorId).Runs ctx db _ _ :=
    InventoryService.runs_changeStatus.mpr ⟨i, hi, _, rfl, hi', _, rfl, hlog, rfl, rfl⟩
  exact ⟨_, _, (runs_discard.mpr ⟨_, hruns⟩ : (Op.changeStatus i.id .available note actorId).run.Runs ctx db () _).exec,
    (h.setItem hi').appendLog _,
    Spares.trans (.setItem (i := flushed ctx db (i.setStatus .available)) rfl) (.appendLog _), rfl,
    Table.get?_set_self hi rfl, rfl, rfl⟩

theorem Db.Coherent.fileRequest_commits {categoryId : UUID} (ctx : Ctx) (itemId : UUID) (f t : Datetime)
    (h : db.Coherent) (hactor : db.users.References actorId) (hcategory : db.categories.References categoryId)
    (hfresh : db.requests.get? requestId = none) (hunbooked : ∀ x ∈ db.requests, ¬ x.IsBookingFor itemId) :
    ∃ db' r, (Event.portal ctx (.fileRequest (recallRequest requestId actorId categoryId f t))).exec db = db' ∧
      db'.Coherent ∧ Spares itemId requestId db db' ∧ db'.items = db.items ∧
        db'.requests.get? requestId = some r ∧ r.status = .pendingItApproval ∧ r.categoryId = categoryId ∧
          ∀ x ∈ db'.requests, ¬ x.IsBookingFor itemId := by
  have hr : Model.constraints db (born ctx (recallRequest requestId actorId categoryId f t)) = .ok () := by
    refine Request.constraints_iff.mpr ⟨fun x _ _ hclash => hclash.2.1 rfl, ?_⟩
    exact ⟨hactor, hcategory, Table.references_none, Table.references_none, Table.references_none,
      Table.references_none, Table.references_none⟩
  have hruns : (PortalStep.fileRequest (recallRequest requestId actorId categoryId f t)).run.Runs ctx db () _ :=
    PortalStep.runs_fileRequest.mpr ⟨⟨rfl, of_decide_eq_true rfl⟩, _, hfresh, hr, rfl, rfl⟩
  have hfresh' : db.requests.get? (born ctx (recallRequest requestId actorId categoryId f t)).id = none := hfresh
  refine ⟨_, _, hruns.exec, h.addRequest hfresh' hr, .addRequest hfresh', rfl,
    (Table.get?_insert hfresh' requestId).trans (if_pos rfl), rfl, rfl, fun x hx hxb => ?_⟩
  rcases (Table.mem_insert hfresh').mp hx with hx | rfl
  · exact hunbooked x hx hxb
  · exact absurd hxb.2 (of_decide_eq_true rfl)

theorem Db.Coherent.assign_commits {i : Item} {r : Request} (ctx : Ctx) (f t : Datetime) (wfh : Bool)
    (h : db.Coherent) (hactor : db.users.References actorId) (hi : db.items.get? itemId = some i)
    (havail : i.status = .available) (hr : db.requests.get? requestId = some r)
    (hstatus : r.status = .pendingItApproval) (hcategory : i.categoryId = r.categoryId)
    (hunbooked : ∀ x ∈ db.requests, ¬ x.IsBookingFor itemId) :
    ∃ db' i' r', (Event.service ctx (.assign requestId itemId f t wfh actorId)).exec db = db' ∧ db'.Coherent ∧
      Spares itemId requestId db db' ∧ db'.items.get? itemId = some i' ∧ i'.status = .assigned ∧
        db'.requests.get? requestId = some r' ∧ r'.IsBookingFor itemId := by
  obtain rfl : i.id = itemId := Table.get?_key hi
  obtain rfl : r.id = requestId := Table.get?_key hr
  have howner : db.users.References r.requesterId :=
    (Request.constraints_iff.mp (h.requests r (Table.get?_mem hr))).2.1
  obtain ⟨r', hwritten⟩ : ∃ r', r' =
    flushed ctx db (AssignmentService.assignedRequest r i.id f t wfh actorId (ctx.clock 0)) := ⟨_, rfl⟩
  have hid : r'.id = r.id := hwritten ▸ rfl
  have hbooking : r'.IsBookingFor i.id := hwritten ▸ ⟨rfl, rfl⟩
  have hr' : Model.constraints db r' = .ok () := by
    obtain ⟨-, h₁, h₂, -, h₄, -, h₆, h₇⟩ := Request.constraints_iff.mp (h.requests r (Table.get?_mem hr))
    refine hwritten ▸ Request.constraints_iff.mpr ⟨fun x hx _ hclash => ?_, ?_⟩
    · exact hunbooked x hx ⟨hclash.2.2.1, hclash.2.2.2⟩
    · exact ⟨h₁, h₂, Table.references_of_get? hi, h₄, hactor, h₆, h₇⟩
  obtain ⟨i', hhanded⟩ : ∃ i', i' =
    flushed ctx (db.setRequest r') (AssignmentService.handedItem i r.requesterId) := ⟨_, rfl⟩
  have hiid : i'.id = i.id := hhanded ▸ rfl
  have hi' : Model.constraints (db.setRequest r') i' = .ok () :=
    hhanded ▸ (h.setRequest hr').handed_ok hi howner _
  have hkept : db.KeysKept ((db.setRequest r').setItem i') := (Db.KeysKept.setRequest r').trans (.setItem i')
  have hlog : ((db.setRequest r').setItem i').DeviceLogIntegral
      (AssignmentService.handedLog .assigned i.id r'.id actorId).row :=
    hkept.deviceLogIntegral ⟨Table.references_of_get? hi, hactor, hid ▸ Table.references_of_get? hr,
      Table.references_none, Table.references_none, Table.references_none⟩
  have hruns : (AssignmentService.assign r.id i.id f t wfh actorId).Runs ctx db _ _ :=
    AssignmentService.runs_assign.mpr ⟨r, hr, hstatus, i, hi, havail, hcategory,
      fun x hx hoverlaps => absurd hoverlaps.1 (hunbooked x hx), r', hwritten, hr', i', hhanded, hi', hlog, rfl, rfl⟩
  refine ⟨_, i', r', (runs_discard.mpr ⟨_, hruns⟩ : (Op.assign r.id i.id f t wfh actorId).run.Runs ctx db () _).exec,
    ((h.setRequest hr').setItem hi').appendLog _, ?_, ?_, hhanded ▸ rfl, ?_, hbooking⟩
  · have hrequest : Spares i.id r.id db (db.setRequest r') := .setRequest (hid ▸ hr) (.inr hid)
    exact (hrequest.trans (.setItem hiid)).trans (.appendLog _)
  · exact Table.get?_set_self hi hiid
  · exact Table.get?_set_self hr hid

/-- The cascade over the open tickets cannot fail, and spares the tickets of other devices. -/
theorem Db.Coherent.cascade_runs (ctx : Ctx) (requestId : UUID) (h : db.Coherent)
    (hitem : db.items.References itemId) :
    ∃ u db', (ShippingService.autoCloseOpenSupport itemId).Runs ctx db u db' ∧ Spares itemId requestId db db' ∧
      db'.items = db.items ∧ db'.requests = db.requests ∧
        ∀ x ∈ db'.supportRequests, x.itemId = itemId → x.status = .resolved := by
  have hloop : wp (fun _ => False) (fun _ s => db.KeysKept s) (ShippingService.autoCloseOpenSupport itemId) ctx db := by
    refine wp_forEach (P := db.KeysKept) (fun n x hx s hs => ?_) (.refl db) 1
    have hstored : db.supportRequests.get? x.id = some x :=
      Table.mem_iff_get?.mp (ShippingService.mem_openTickets.mp hx).1
    have hx' : Model.constraints s (flushed ctx s (ShippingService.closedTicket x (ctx.clock n))) = .ok () :=
      SupportRequest.constraints_iff.mpr (hs.supportRequestIntegral (t := x) (h.ticket_refs hstored))
    have hset := hs.trans (.setSupportRequest (flushed ctx s (ShippingService.closedTicket x (ctx.clock n))))
    have hlog := hset.deviceLogIntegral (l := (ShippingService.closedLog itemId x.id).row) ⟨hitem,
      Table.references_none, Table.references_none, Table.references_of_get? hstored, Table.references_none,
      Table.references_none⟩
    have hturn : (ShippingService.closeTicket itemId n x).Runs ctx s () _ :=
      ShippingService.runs_closeTicket.mpr ⟨_, rfl, hx', hlog, rfl⟩
    exact wp_of_runs hturn (hset.trans (.appendLog _))
  obtain ⟨u, db', hruns, hkept⟩ := exists_runs_of_wp hloop
  obtain ⟨ts, hts, hclosed⟩ := ShippingService.runs_autoCloseOpenSupport hruns
  have hmem {s x : SupportRequest} {k : UUID} (hs : s ∈ ts) (hid : s.id = k)
      (hx : db.supportRequests.get? k = some x) : s = x :=
    Option.some.inj ((Table.mem_iff_get?.mp ((hts s).mp hs).1).symm.trans ((congrArg _ hid).trans hx))
  refine ⟨u, db', hruns, ⟨hkept, fun k _ => by rw [hclosed.items], fun k r hr _ _ => ?_, fun k x hx hother => ?_⟩,
    hclosed.items, hclosed.requests, fun x hx hdevice => ?_⟩
  · rw [hclosed.requests]
    exact hr
  · refine (hclosed.others k fun s hs hid => hother ?_).trans hx
    rw [← hmem hs hid hx]
    exact ((hts s).mp hs).2.1
  · have hx' : db'.supportRequests.get? x.id = some x := Table.mem_iff_get?.mp hx
    by_cases hk : ∃ s ∈ ts, s.id = x.id
    · obtain ⟨s, hs, hid⟩ := hk
      obtain ⟨now, updatedAt, hstored⟩ := hclosed.closed s hs
      obtain rfl := Option.some.inj (hstored.symm.trans ((congrArg _ hid).trans hx'))
      rfl
    · have hold := (hclosed.others x.id fun s hs hid => hk ⟨s, hs, hid⟩).symm.trans hx'
      by_contra hopen
      exact hk ⟨x, (hts x).mpr ⟨Table.mem_iff_get?.mpr hold, hdevice, hopen⟩, rfl⟩

theorem Db.Coherent.completeReturn_commits {i : Item} {r : Request} (ctx : Ctx) (h : db.Coherent)
    (hactor : db.users.References actorId) (hi : db.items.get? itemId = some i) (hstatus : i.status = .assigned)
    (hr : db.requests.get? requestId = some r) (hbooking : r.IsBookingFor itemId) :
    ∃ db', (Event.service ctx (.completeReturn requestId .available actorId)).exec db = db' ∧
      Spares itemId requestId db db' ∧ db'.Pooled itemId := by
  obtain rfl : i.id = itemId := Table.get?_key hi
  obtain rfl : r.id = requestId := Table.get?_key hr
  obtain ⟨r', hwritten⟩ : ∃ r', r' =
    flushed ctx db (ShippingService.completedRequest r (some .available) actorId (ctx.clock 0)) := ⟨_, rfl⟩
  have hid : r'.id = r.id := hwritten ▸ rfl
  have hr' : Model.constraints db r' = .ok () := by
    refine hwritten ▸ h.request_ok hr rfl (.inl rfl) ?_
    rintro ⟨h₁, h₂, h₃, h₄, h₅, h₆, -⟩
    exact ⟨h₁, h₂, h₃, h₄, h₅, h₆, hactor⟩
  obtain ⟨i', hreleased⟩ : ∃ i', i' = flushed ctx (db.setRequest r') (i.release .available) := ⟨_, rfl⟩
  have hiid : i'.id = i.id := hreleased ▸ rfl
  have hi' : Model.constraints (db.setRequest r') i' = .ok () := hreleased ▸ (h.setRequest hr').release_ok hi _
  have hspares : Spares i.id r.id db ((db.setRequest r').setItem i') :=
    Spares.trans (.setRequest (hid ▸ hr) (.inr hid)) (.setItem hiid)
  have hrefs : db.DeviceLogIntegral (ShippingService.completionLog i'.id r'.id actorId).row :=
    ⟨hiid ▸ Table.references_of_get? hi, hactor, hid ▸ Table.references_of_get? hr, Table.references_none,
      Table.references_none, Table.references_none⟩
  obtain ⟨l, hl⟩ : ∃ l, l =
    ShippingService.shippingLog .returnReceived i'.id r'.id actorId i.status .available none := ⟨_, rfl⟩
  have hlogged := hspares.trans (.appendLog (l.written ctx))
  have hlogged' := hlogged.trans (.appendLog ((ShippingService.completionLog i'.id r'.id actorId).written ctx))
  obtain ⟨u, db', hcascade, hclosed, hitems, hrequests, htickets⟩ :=
    ((((h.setRequest hr').setItem hi').appendLog (l.written ctx)).appendLog
      ((ShippingService.completionLog i'.id r'.id actorId).written ctx)).cascade_runs ctx r.id
        (hlogged'.keys.items (Table.references_of_get? hi))
  have hruns : (ShippingService.completeReturn r.id .available actorId).Runs ctx db r' db' :=
    ShippingService.runs_completeReturn.mpr ⟨r, hr, i, ⟨i.id, hbooking.1, hi⟩, hstatus ▸ by decide, r', hwritten, hr',
      i', hreleased, hi', l, hl, hspares.keys.deviceLogIntegral (hl ▸ hrefs), _, rfl,
      hlogged.keys.deviceLogIntegral hrefs, ⟨u, hiid ▸ hcascade⟩, rfl⟩
  refine ⟨db', (runs_discard.mpr ⟨_, hruns⟩ :
    (Op.completeReturn r.id .available actorId).run.Runs ctx db () db').exec, hlogged'.trans hclosed,
    ⟨i', ?_, hreleased ▸ rfl, hreleased ▸ rfl⟩, fun x hx hxb => ?_, htickets⟩
  · rw [hitems]
    exact Table.get?_set_self hi hiid
  · rw [hrequests] at hx
    rcases Table.mem_set.mp hx with ⟨rfl, -⟩ | ⟨hx, hne⟩
    · exact absurd (hwritten ▸ hxb.2) (of_decide_eq_true rfl)
    · exact hne ((h.booking_unique hx (Table.get?_mem hr) hxb hbooking).trans hid.symm)

/-! ### The recall -/

theorem Db.Coherent.unbook (ctx : Ctx) (itemId requestId : UUID) (h : db.Coherent)
    (hactor : db.users.References actorId) (reason : String) :
    ∃ db', db.after ((db.bookingFor itemId).map fun r => Event.service ctx (.cancel r.id reason actorId)).toList = db' ∧
      db'.Coherent ∧ Spares itemId requestId db db' ∧ db'.items = db.items ∧
        (∀ x ∈ db'.requests, ¬ x.IsBookingFor itemId) ∧
          (db.requests.get? requestId = none → db'.requests.get? requestId = none) := by
  cases hbooking : db.bookingFor itemId with
  | none =>
    have hunbooked := List.find?_eq_none.mp hbooking
    exact ⟨db, rfl, h, .refl db, rfl, fun x hx hxb => hunbooked x hx (decide_eq_true hxb), id⟩
  | some r =>
    have hbooked := List.find?_some (p := fun x : Request => decide (x.IsBookingFor itemId)) hbooking
    exact h.cancel_commits hactor (List.mem_of_find?_eq_some hbooking) (of_decide_eq_true hbooked)

theorem Db.Coherent.recall_pools {ctxs : Nat → Ctx} {i : Item} (h : db.Coherent)
    (hactor : db.users.References actorId) (hi : db.items.get? i.id = some i)
    (hfresh : db.requests.get? requestId = none) :
    (db.after (db.recall ctxs i requestId actorId f t)).Pooled i.id ∧
      Spares i.id requestId db (db.after (db.recall ctxs i requestId actorId f t)) := by
  obtain ⟨db₁, hexec₁, h₁, hspares₁, hitems₁, hunbooked₁, hfresh₁⟩ :=
    h.unbook (ctxs 0) i.id requestId hactor "Recalled."
  have hactor₁ := hspares₁.keys.users hactor
  have hi₁ : db₁.items.get? i.id = some i := hitems₁ ▸ hi
  obtain ⟨db₂, i₂, hexec₂, h₂, hspares₂, hrequests₂, hi₂, havail, hcategory⟩ :=
    h₁.changeStatus_commits (ctxs 1) requestId none hactor₁ hi₁
  have hactor₂ := hspares₂.keys.users hactor₁
  have hrefers : db₂.categories.References i.categoryId :=
    hcategory ▸ (Item.constraints_iff.mp (h₂.items i₂ (Table.get?_mem hi₂))).2.2.1
  obtain ⟨db₃, r₃, hexec₃, h₃, hspares₃, hitems₃, hr₃, hstatus₃, hcategory₃, hunbooked₃⟩ :=
    h₂.fileRequest_commits (ctxs 2) i.id f t hactor₂ hrefers (hrequests₂ ▸ hfresh₁ hfresh)
      (hrequests₂ ▸ hunbooked₁)
  have hactor₃ := hspares₃.keys.users hactor₂
  obtain ⟨db₄, i₄, r₄, hexec₄, h₄, hspares₄, hi₄, hstatus₄, hr₄, hbooking₄⟩ :=
    h₃.assign_commits (ctxs 3) f t false hactor₃ (hitems₃ ▸ hi₂) havail hr₃ hstatus₃
      (hcategory.trans hcategory₃.symm) hunbooked₃
  have hactor₄ := hspares₄.keys.users hactor₃
  obtain ⟨db₅, hexec₅, hspares₅, hpooled⟩ :=
    h₄.completeReturn_commits (ctxs 4) hactor₄ hi₄ hstatus₄ hr₄ hbooking₄
  have hexec : db.after (db.recall ctxs i requestId actorId f t) = db₅ := by
    rw [Db.after, Db.recall, List.foldl_append, show List.foldl _ db _ = db₁ from hexec₁]
    simp only [List.foldl_cons, List.foldl_nil, hexec₂, hexec₃, hexec₄, hexec₅]
  rw [hexec]
  exact ⟨hpooled, (((hspares₁.trans hspares₂).trans hspares₃).trans hspares₄).trans hspares₅⟩

theorem Db.recall_admitted {ctxs : Nat → Ctx} {i : Item} (hrange : f < t) :
    (∀ e ∈ db.recall ctxs i requestId actorId f t, e.Admitted) ∧
      (db.recall ctxs i requestId actorId f t).length ≤ 5 := by
  have hrest : ∀ e ∈ [Event.service (ctxs 1) (.changeStatus i.id .available none actorId),
      .portal (ctxs 2) (.fileRequest (recallRequest requestId actorId i.categoryId f t)),
      .service (ctxs 3) (.assign requestId i.id f t false actorId),
      .service (ctxs 4) (.completeReturn requestId .available actorId)], e.Admitted := by
    simp only [List.forall_mem_cons]
    exact ⟨of_decide_eq_true rfl, trivial, not_le.mpr hrange, of_decide_eq_true rfl,
      fun _ he => absurd he List.not_mem_nil⟩
  rw [Db.recall]
  cases db.bookingFor i.id with
  | none => exact ⟨hrest, Nat.le_succ 4⟩
  | some r => exact ⟨List.forall_mem_cons.mpr ⟨trivial, hrest⟩, Nat.le_refl 5⟩

/-- **No state is a dead end for a device**: from every reachable state, whatever bookings, owners, statuses and
tickets it has come to, at most five accepted calls bring it back to the pool, nobody's, not booked, without an open
ticket, and no other device and no other request is touched. -/
theorem recoverable_of_run {ok : Db → Event → Prop} {i : Item} (ctxs : Nat → Ctx) (h : db.Coherent)
    (run : Run Step ok db db') (hi : i ∈ db'.items) (hactor : db'.users.References actorId)
    (hfresh : db'.requests.get? requestId = none) (hrange : f < t) :
    (∀ e ∈ db'.recall ctxs i requestId actorId f t, e.Admitted) ∧
      (db'.recall ctxs i requestId actorId f t).length ≤ 5 ∧
      (db'.after (db'.recall ctxs i requestId actorId f t)).Pooled i.id ∧
        Spares i.id requestId db' (db'.after (db'.recall ctxs i requestId actorId f t)) := by
  obtain ⟨hadmitted, hlength⟩ := Db.recall_admitted hrange
  exact ⟨hadmitted, hlength, (h.of_run run).recall_pools hactor (Table.mem_iff_get?.mp hi) hfresh⟩

namespace Sample

/-- Laptop 2 is reported lost while it is booked, owned, and on an open ticket. -/
def mislaid : List Event := [call (.changeStatus 2 .lost none 9)]

def lostLaptop : Item := { device 2 "S-2" .lost (some 2) with updatedAt := 5 }

end Sample

theorem recoverable_of_run_mislaid :
    ((Sample.after Sample.mislaid).after
      ((Sample.after Sample.mislaid).recall (fun _ => Sample.ctx) Sample.lostLaptop 3 9 0 10)).Pooled 2 := by
  have run : Run Step (fun _ _ => True) Sample.store (Sample.after Sample.mislaid) :=
    .step .refl (Sample.call (.changeStatus 2 .lost none 9)) trivial rfl
  exact (recoverable_of_run (fun _ => Sample.ctx) (by decide) run (Table.mem_iff_get?.mpr rfl) (by decide) rfl
    (by decide)).2.2.1

end AssetPilot
