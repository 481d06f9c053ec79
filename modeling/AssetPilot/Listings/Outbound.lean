import AssetPilot.Effects.Inversion
import AssetPilot.Invariants.Store
import AssetPilot.Repositories.Listings

/-!
# Shipments and the outbound queue

The queue has the assigned requests from home that have not been shipped, by the columns of the request; `ship`
asks for a device that is assigned, and so does not see that the request has been shipped, or has ended.
`confirm_delivery` asks for a device under way, and not whose shipment it is. A history variable keeps the clock
readings of the calls of a run, and the shipments that they made.
-/

namespace AssetPilot

open Relational Custody System Txn ShippingService RequestRepository

variable {ctx : Ctx} {db db' : Db} {e : Event} {q actorId : UUID} {url : String} {row : Request}

/-! ### The history of a run -/

/-- One shipment: the store before it, and the request. -/
structure Shipment where
  before : Db
  request : UUID

/-- What the history keeps of a call: a reading of the clock, and the shipment that it made, if it made one. -/
structure Moment where
  time : Datetime
  shipment : Option Shipment

def Op.shipment (ctx : Ctx) (db : Db) : Op → Option Shipment
  | .ship requestId url actorId =>
    if (ShippingService.ship requestId url actorId).succeeds ctx db then some ⟨db, requestId⟩ else none
  | _ => none

def Event.moments (db : Db) : Event → List Moment
  | .service ctx op => [⟨ctx.clock 0, op.shipment ctx db⟩]
  | .portal _ _ => []

def shipments (moments : List Moment) : List Shipment := moments.filterMap Moment.shipment

theorem shipments_append (xs ys : List Moment) : shipments (xs ++ ys) = shipments xs ++ shipments ys :=
  List.filterMap_append

/-- The request was in the outbound queue just before it was shipped, whatever the answer to `ORDER BY`. -/
def Shipment.FromQueue (x : Shipment) : Prop :=
  ∀ ctx order queue, (listOutbound order).Runs ctx x.before queue x.before → ∃ row ∈ queue, row.id = x.request

/-- A delivery follows a shipment. -/
def Request.Delivered (r : Request) : Prop := ∀ c ∈ r.shipCompletedAt, ∃ s ∈ r.shipInitiatedAt, s ≤ c

def Db.Delivered (db : Db) : Prop := ∀ r ∈ db.requests, r.Delivered

/-- What has been shipped in `db` has the same shipment in `db'`. -/
def ShipmentsKept (db db' : Db) : Prop :=
  ∀ q r, db.requests.get? q = some r → r.shipInitiatedAt ≠ none → ∃ r', db'.requests.get? q = some r' ∧
    r'.shipInitiatedAt = r.shipInitiatedAt ∧ r'.shipTrackingUrl = r.shipTrackingUrl

/-- What has been shipped between `db` and `db'` was in the queue, no request twice and none that had been shipped
before, and what is delivered was shipped before. -/
structure ShippedOnce (db : Db) (moments : List Moment) (db' : Db) : Prop where
  fromQueue : ∀ x ∈ shipments moments, x.FromQueue
  once : ((shipments moments).map Shipment.request).Nodup
  kept : ShipmentsKept db db'
  delivered : db'.Delivered

/-- The employees' side files requests that have neither been shipped nor delivered, and tickets for requests that
have a device; the clock does not run backwards. -/
structure Event.Orderly (e : Event) (s : Db × List Moment) : Prop where
  tied : TicketsTied s.1 e
  filed : ∀ ctx r, e = .portal ctx (.fileRequest r) → r.shipInitiatedAt = none ∧ r.shipCompletedAt = none
  clock : ∀ ctx op, e = .service ctx op → ∀ m ∈ s.2, m.time ≤ ctx.clock 0

/-- `ship` gets past its guards. -/
def Request.Shippable (db : Db) (r : Request) : Prop :=
  r.isWfh = true ∧ ∃ i ∈ r.assignedItemId.bind db.items.get?, i.status = .assigned

/-- `confirm_delivery` gets past its guards. -/
def Request.Deliverable (db : Db) (r : Request) : Prop :=
  ∃ i ∈ r.assignedItemId.bind db.items.get?, i.status = .shippingPending

/-- A call that gets past its guards ships a request that has not ended and has not been shipped, and confirms the
delivery of one that has been. -/
def Op.ShipsOnce (db : Db) : Op → Prop
  | .ship requestId _ _ => ∀ r ∈ db.requests.get? requestId, r.Shippable db →
      r.status ∉ _TERMINAL_STATUSES ∧ r.shipInitiatedAt = none
  | .confirmDelivery requestId _ => ∀ r ∈ db.requests.get? requestId, r.Deliverable db → r.shipInitiatedAt ≠ none
  | _ => True

def Event.ShipsOnce (db : Db) : Event → Prop
  | .service _ op => op.ShipsOnce db
  | .portal _ _ => True

/-! ### The queue -/

theorem Shipment.fromQueue_iff {r : Request} (hr : db.requests.get? q = some r)
    (hrequester : db.users.References r.requesterId)
    (hitem : r.assignedItemId.bind db.items.get? ≠ none) :
    Shipment.FromQueue ⟨db, q⟩ ↔ r.isWfh = true ∧ r.status = .assigned ∧ r.shipInitiatedAt = none := by
  obtain rfl : r.id = q := Table.get?_key hr
  obtain ⟨u, hu⟩ := Option.ne_none_iff_exists'.mp (hrequester r.requesterId rfl)
  obtain ⟨i, hi⟩ := Option.ne_none_iff_exists'.mp hitem
  have hselect : (outboundQuery db).select r ≠ none ↔
      r.isWfh = true ∧ r.status = .assigned ∧ r.shipInitiatedAt = none := by
    simp [outboundQuery, hi, hu]
  have hqueue : ∀ order : OrderBy queueOrder,
      (∃ row ∈ (order.sort ((outboundQuery db).rows db.requests)).map queueResultFrom, row.id = r.id) ↔
        r.isWfh = true ∧ r.status = .assigned ∧ r.shipInitiatedAt = none := by
    intro order
    rw [← hselect]
    constructor
    · rintro ⟨row, hrow, hid⟩
      obtain ⟨b, hb, rfl⟩ := List.mem_map.mp hrow
      obtain ⟨ha, hne⟩ := (outboundQuery db).exists_mem_rows.mp ⟨b, order.mem_sort.mp hb, rfl⟩
      have hstored : db.requests.get? r.id = some b.request := hid ▸ Table.mem_iff_get?.mp ha
      obtain rfl := Option.some.inj (hr.symm.trans hstored)
      exact hne
    · intro hne
      obtain ⟨b, hb, hmain⟩ := (outboundQuery db).exists_mem_rows.mpr ⟨Table.get?_mem hr, hne⟩
      exact ⟨queueResultFrom b, List.mem_map.mpr ⟨b, order.mem_sort.mpr hb, rfl⟩, congrArg Request.id hmain⟩
  constructor
  · intro h
    exact (hqueue OrderBy.stable).mp (h Sample.ctx OrderBy.stable _ (runs_listOutbound.mpr ⟨rfl, rfl⟩))
  · intro h ctx order queue hruns
    rw [(runs_listOutbound.mp hruns).1]
    exact (hqueue order).mpr h

/-- **A shipment is from the queue** exactly when its request has not ended and has not been shipped. -/
theorem ship_fromQueue_iff (hcarried : Carried db.custody) (h : (ship q url actorId).Runs ctx db row db') :
    Shipment.FromQueue ⟨db, q⟩ ↔ (Op.ship q url actorId).ShipsOnce db := by
  obtain ⟨r, hr, hwfh, i, ⟨d, hd, hi⟩, hstatus, r', hr', hok, -⟩ := runs_ship.mp h
  have hrequester : db.users.References r.requesterId :=
    (show r'.requesterId = r.requesterId from hr' ▸ rfl) ▸ (constraintCheck_ok.mp hok).2.2.1
  have hitem : r.assignedItemId.bind db.items.get? ≠ none := by simp [hd, hi]
  rw [Shipment.fromQueue_iff hr hrequester hitem]
  obtain rfl : r.id = q := Table.get?_key hr
  constructor
  · rintro ⟨-, hassigned, hnone⟩ x hx -
    obtain rfl := Option.some.inj (hr.symm.trans hx)
    exact ⟨hassigned ▸ by decide, hnone⟩
  · intro honce
    obtain ⟨hopen, hnone⟩ := honce r hr ⟨hwfh, i, bind_eq_some hd hi, hstatus⟩
    refine ⟨hwfh, ?_, hnone⟩
    by_contra hne
    exact absurd ((hcarried.not_assigned hr hopen hne).symm.trans hd) (Option.some_ne_none d).symm

/-! ### One event -/

/-- The three columns are the same. -/
structure Request.SameShipment (r r' : Request) : Prop where
  url : r'.shipTrackingUrl = r.shipTrackingUrl
  initiated : r'.shipInitiatedAt = r.shipInitiatedAt
  completed : r'.shipCompletedAt = r.shipCompletedAt

/-- Only `ship` and `confirm_delivery` write the three columns, past their guards. -/
theorem Event.Rewrites.shipment_cases {r r' : Request} (h : e.Rewrites db r r') :
    r.SameShipment r' ∨
    (∃ ctx url actorId, e = .service ctx (.ship r.id url actorId) ∧ r.Shippable db ∧
      r' = shippedRequest r url (ctx.clock 0)) ∨
    ∃ ctx actorId, e = .service ctx (.confirmDelivery r.id actorId) ∧ r.Deliverable db ∧
      r' = deliveredRequest r (ctx.clock 0) := by
  cases h with
  | service h =>
    cases h with
    | ship hwfh hdevice hitem hstatus =>
      exact .inr (.inl ⟨_, _, _, rfl, ⟨hwfh, _, bind_eq_some hdevice hitem, hstatus⟩, rfl⟩)
    | confirmDelivery hdevice hitem hstatus =>
      exact .inr (.inr ⟨_, _, rfl, ⟨_, bind_eq_some hdevice hitem, hstatus⟩, rfl⟩)
    | _ => exact .inl ⟨rfl, rfl, rfl⟩
  | portal h => cases h <;> exact .inl ⟨rfl, rfl, rfl⟩

theorem ShipmentsKept.refl (db : Db) : ShipmentsKept db db := fun _ r hr _ => ⟨r, hr, rfl, rfl⟩

theorem ShipmentsKept.trans {db'' : Db} (h : ShipmentsKept db db') (h' : ShipmentsKept db' db'') :
    ShipmentsKept db db'' := by
  intro q r hr hne
  obtain ⟨r', hr', hinitiated, hurl⟩ := h q r hr hne
  obtain ⟨r'', hr'', hinitiated', hurl'⟩ := h' q r' hr' (hinitiated ▸ hne)
  exact ⟨r'', hr'', hinitiated'.trans hinitiated, hurl'.trans hurl⟩

theorem Event.RequestsStep.shipmentsKept (h : e.RequestsStep db db') (honce : e.ShipsOnce db) :
    ShipmentsKept db db' := by
  intro q x hx hne
  rcases h.stays hx with hsame | ⟨r', u, hw, hr'⟩
  · exact ⟨x, hsame, rfl, rfl⟩
  · obtain rfl : x.id = q := Table.get?_key hx
    refine ⟨_, hr', ?_⟩
    rcases hw.shipment_cases with hsame | ⟨ctx, url, actorId, rfl, hships, -⟩ | ⟨ctx, actorId, rfl, -, rfl⟩
    · exact ⟨hsame.initiated, hsame.url⟩
    · exact absurd (honce x hx hships).2 hne
    · exact ⟨rfl, rfl⟩

/-- The shipments of the store are in the history. -/
def Db.Timed (db : Db) (moments : List Moment) : Prop :=
  ∀ r ∈ db.requests, ∀ s ∈ r.shipInitiatedAt, ∃ m ∈ moments, s ≤ m.time

theorem Db.Timed.step {moments : List Moment} (h : db.Timed moments) (horderly : e.Orderly (db, moments))
    (hstep : e.RequestsStep db db') : db'.Timed (moments ++ e.moments db) := by
  have hold : ∀ r : Request, (∀ s ∈ r.shipInitiatedAt, ∃ m ∈ moments, s ≤ m.time) →
      ∀ s ∈ r.shipInitiatedAt, ∃ m ∈ moments ++ e.moments db, s ≤ m.time := by
    intro r hr s hs
    obtain ⟨m, hm, hle⟩ := hr s hs
    exact ⟨m, List.mem_append_left _ hm, hle⟩
  refine hstep.forall_mem (P := fun r => ∀ s ∈ r.shipInitiatedAt, ∃ m ∈ moments ++ e.moments db, s ≤ m.time)
    ?_ ?_ fun r hr => hold r (h r hr)
  · intro r r' u hr hw hP s hs
    rcases hw.shipment_cases with hsame | ⟨ctx, url, actorId, rfl, -, rfl⟩ | ⟨ctx, actorId, rfl, -, rfl⟩
    · exact hP s (hsame.initiated ▸ hs)
    · obtain rfl := Option.some.inj hs
      exact ⟨_, List.mem_append_right _ (List.mem_singleton_self _), le_refl _⟩
    · exact hP s hs
  · intro r u hc s hs
    cases hc with
    | directAssign => exact nomatch hs
    | fileRequest => exact absurd ((horderly.filed _ r rfl).1.symm.trans hs) (Option.some_ne_none s).symm

theorem Db.Delivered.step {moments : List Moment} (h : db.Delivered) (htimed : db.Timed moments)
    (horderly : e.Orderly (db, moments)) (honce : e.ShipsOnce db) (hstep : e.RequestsStep db db') :
    db'.Delivered := by
  refine hstep.forall_mem (P := Request.Delivered) ?_ ?_ h
  · intro r r' u hr hw hP c hc
    rcases hw.shipment_cases with hsame | ⟨ctx, url, actorId, rfl, hships, rfl⟩ | ⟨ctx, actorId, rfl, harrives, rfl⟩
    · obtain ⟨s, hs, hle⟩ := hP c (hsame.completed ▸ hc)
      exact ⟨s, hsame.initiated ▸ hs, hle⟩
    · obtain ⟨s, hs, -⟩ := hP c hc
      exact absurd ((honce r hr hships).2.symm.trans hs) (Option.some_ne_none s).symm
    · obtain rfl := Option.some.inj hc
      obtain ⟨s, hs⟩ := Option.ne_none_iff_exists'.mp (honce r hr harrives)
      obtain ⟨m, hm, hle⟩ := htimed r (Table.get?_mem hr) s hs
      exact ⟨s, hs, hle.trans (horderly.clock ctx _ rfl m hm)⟩
  · intro r u hc c hcompleted
    cases hc with
    | directAssign => exact nomatch hcompleted
    | fileRequest =>
      exact absurd ((horderly.filed _ r rfl).2.symm.trans hcompleted) (Option.some_ne_none c).symm

/-! ### The shipments of a run -/

theorem Event.mem_shipments {x : Shipment} (h : x ∈ shipments (e.moments db)) :
    ∃ ctx url actorId row db', e = .service ctx (.ship x.request url actorId) ∧
      (ship x.request url actorId).Runs ctx db row db' ∧ x.before = db := by
  cases e with
  | portal => exact nomatch h
  | service ctx op =>
    cases op with
    | ship requestId url actorId =>
      have hx : Op.shipment ctx db (.ship requestId url actorId) = some x := by
        simpa [shipments, Event.moments] using h
      obtain ⟨hsucceeds, rfl⟩ : (ship requestId url actorId).succeeds ctx db = true ∧
          Shipment.mk db requestId = x := by
        simpa [Op.shipment] using hx
      obtain ⟨row, db', hruns⟩ := Txn.succeeds_iff.mp hsucceeds
      exact ⟨ctx, url, actorId, row, db', rfl, hruns, rfl⟩
    | _ => exact absurd h (by simp [shipments, Event.moments, Op.shipment])

theorem Event.nodup_shipments : ((shipments (e.moments db)).map Shipment.request).Nodup := by
  cases e with
  | portal => exact List.nodup_nil
  | service ctx op => cases hop : op.shipment ctx db <;> simp [shipments, Event.moments, hop]

theorem ship_shippable (h : (ship q url actorId).Runs ctx db row db') :
    ∀ r ∈ db.requests.get? q, r.Shippable db := by
  obtain ⟨r, hr, hwfh, i, ⟨d, hd, hi⟩, hstatus, -⟩ := runs_ship.mp h
  intro x hx
  obtain rfl := Option.some.inj (hr.symm.trans hx)
  exact ⟨hwfh, i, bind_eq_some hd hi, hstatus⟩

theorem ship_shipped (h : (ship q url actorId).Runs ctx db row db') :
    ∃ r, db'.requests.get? q = some r ∧ r.shipInitiatedAt ≠ none := by
  obtain ⟨r, hr, -, i, -, -, r', hr', -, i', -, -, l, -, -, -, rfl⟩ := runs_ship.mp h
  have hid : r'.id = q := hr' ▸ Table.get?_key hr
  exact ⟨r', Table.get?_set_self hr hid, hr' ▸ Option.some_ne_none _⟩

/-- What holds of the store and the history of a run of orderly events that meet the condition. -/
structure ShippingLaw (db₀ : Db) (s : Db × List Moment) : Prop where
  custody : Sound s.1.custody ∧ Carried s.1.custody
  timed : s.1.Timed s.2
  shipped : ∀ x ∈ shipments s.2, ∃ r, s.1.requests.get? x.request = some r ∧ r.shipInitiatedAt ≠ none
  once : ShippedOnce db₀ s.2 s.1

theorem ShippingLaw.step {db₀ : Db} {s s' : Db × List Moment} (h : ShippingLaw db₀ s) (horderly : e.Orderly s)
    (honce : e.ShipsOnce s.1) (hstep : Recorded Step (fun db e => e.moments db) s e s') : ShippingLaw db₀ s' := by
  obtain ⟨db, moments⟩ := s
  obtain ⟨db', moments'⟩ := s'
  obtain ⟨hstep, rfl⟩ : Step db e db' ∧ moments' = moments ++ e.moments db := hstep
  have hrequests : e.RequestsStep db db' := by
    rcases hstep.cases with rfl | hcommits
    · exact .same rfl
    · exact hcommits.effects.requests
  have hkept := hrequests.shipmentsKept honce
  -- a shipment of this step is the commit of this step, of a request that was not shipped before
  have hnew : ∀ x ∈ shipments (e.moments db), x.FromQueue ∧
      (∃ r, db'.requests.get? x.request = some r ∧ r.shipInitiatedAt ≠ none) ∧
      ∀ r ∈ db.requests.get? x.request, r.shipInitiatedAt = none := by
    intro x hx
    obtain ⟨ctx, url, actorId, row, db₁, rfl, hruns, rfl⟩ := Event.mem_shipments hx
    have hcommit : Op.run (.ship x.request url actorId) |>.Runs ctx x.before () db₁ :=
      runs_discard.mpr ⟨row, hruns⟩
    obtain rfl : db₁ = db' := hcommit.exec.symm.trans hstep
    exact ⟨(ship_fromQueue_iff h.custody.2 hruns).mpr honce, ship_shipped hruns,
      fun r hr => (honce r hr (ship_shippable hruns r hr)).2⟩
  refine ⟨?_, h.timed.step horderly hrequests, fun x hx => ?_, fun x hx => ?_, ?_, h.once.kept.trans hkept,
    h.once.delivered.step h.timed horderly honce hrequests⟩
  · rcases hstep.cases with rfl | hcommits
    · exact h.custody
    · exact carried_of_step h.custody horderly.tied hcommits
  · rcases List.mem_append.mp (shipments_append moments _ ▸ hx) with hx | hx
    · obtain ⟨r, hr, hne⟩ := h.shipped x hx
      obtain ⟨r', hr', hinitiated, -⟩ := hkept _ r hr hne
      exact ⟨r', hr', hinitiated ▸ hne⟩
    · exact (hnew x hx).2.1
  · rcases List.mem_append.mp (shipments_append moments _ ▸ hx) with hx | hx
    · exact h.once.fromQueue x hx
    · exact (hnew x hx).1
  · rw [shipments_append, List.map_append, List.nodup_append']
    refine ⟨h.once.once, Event.nodup_shipments, fun k hk hk' => ?_⟩
    obtain ⟨x, hx, rfl⟩ := List.mem_map.mp hk
    obtain ⟨y, hy, hxy⟩ := List.mem_map.mp hk'
    obtain ⟨r, hr, hne⟩ := h.shipped x hx
    exact hne ((hnew y hy).2.2 r (hxy ▸ hr))

/-- **An event keeps the law** exactly when it meets the condition. -/
theorem ShippingLaw.commits_iff {db₀ : Db} {moments : List Moment} (h : ShippingLaw db₀ (db, moments))
    (horderly : e.Orderly (db, moments)) (hcommits : e.Commits db db') :
    (∀ x ∈ shipments (e.moments db), x.FromQueue) ∧ db'.Delivered ↔ e.ShipsOnce db := by
  constructor
  · rintro ⟨hqueue, hdelivered⟩
    cases hcommits with
    | portal => trivial
    | @service ctx op db' hruns =>
      cases op with
      | ship requestId url actorId =>
        obtain ⟨row, hruns⟩ := runs_discard.mp hruns
        apply (ship_fromQueue_iff h.custody.2 hruns).mp
        exact hqueue _ (by simp [shipments, Event.moments, Op.shipment, hruns.succeeds])
      | confirmDelivery requestId actorId =>
        obtain ⟨row, hruns⟩ := runs_discard.mp hruns
        obtain ⟨r, hr, i, -, -, r', hr', -, i', -, -, l, -, -, -, rfl⟩ := runs_confirmDelivery.mp hruns
        have hid : r'.id = requestId := hr' ▸ Table.get?_key hr
        have hstored : (db.requests.set r').get? requestId = some r' := Table.get?_set_self hr hid
        obtain ⟨s, hs, -⟩ := hdelivered r' (Table.get?_mem hstored) (ctx.clock 0) (hr' ▸ rfl)
        rintro x hx -
        obtain rfl := Option.some.inj (hr.symm.trans hx)
        have hinitiated : r'.shipInitiatedAt = r.shipInitiatedAt := hr' ▸ rfl
        exact hinitiated ▸ Option.ne_none_iff_exists'.mpr ⟨s, hs⟩
      | _ => trivial
  · intro honce
    have hstep : Step db e db' := by
      cases hcommits with
      | service hruns => exact hruns.exec
      | portal hruns => exact hruns.exec
    have hlaw : ShippingLaw db₀ (db', moments ++ e.moments db) := h.step horderly honce ⟨hstep, rfl⟩
    refine ⟨fun x hx => hlaw.once.fromQueue x ?_, hlaw.once.delivered⟩
    rw [shipments_append]
    exact List.mem_append_right _ hx

/-! ### Runs -/

/-- **A request is shipped at most once, and from the queue**, in every run of orderly events that meet the
condition, and the next event breaks that exactly when it does not meet it. -/
theorem shippedOnce_of_run {start : Datetime} {moments : List Moment} (h : db.Settled) (hdelivered : db.Delivered)
    (hstart : ∀ r ∈ db.requests.rows, ∀ s ∈ r.shipInitiatedAt, s ≤ start)
    (run : Run (Recorded Step fun db e => e.moments db) (fun s e => e.Orderly s ∧ e.ShipsOnce s.1)
      (db, [⟨start, none⟩]) (db', moments)) :
    ShippedOnce db moments db' ∧ ∀ (e : Event) (db'' : Db), e.Orderly (db', moments) → e.Commits db' db'' →
      ((∀ x ∈ shipments (e.moments db'), x.FromQueue) ∧ db''.Delivered ↔ e.ShipsOnce db') := by
  have hlaw : ShippingLaw db (db', moments) := by
    refine run.inv (P := fun s => ShippingLaw db s) (fun s e s' hlaw hallowed hstep => ?_) ?_
    · exact hlaw.step hallowed.1 hallowed.2 hstep
    · refine ⟨⟨h.integral.sound, h.carried⟩, fun r hr s hs => ?_, nofun, nofun, List.nodup_nil, .refl db, hdelivered⟩
      exact ⟨_, List.mem_singleton_self _, hstart r hr s hs⟩
  exact ⟨hlaw.once, fun e db'' horderly hcommits => hlaw.commits_iff horderly hcommits⟩

namespace Sample

/-- Laptop 1 is handed out to be used from home, and waits for its shipment. -/
def waiting : Db := (call (.assign 1 1 0 10 true 9)).exec store

def ship (url : String) : Event := call (.ship 1 url 9)

theorem call_orderly {op : Op} {s : Db × List Moment} (h : ∀ m ∈ s.2, m.time ≤ 5) : (call op).Orderly s where
  tied := trivial
  filed _ _ he := nomatch he
  clock ctx op he m hm := by
    obtain ⟨rfl, -⟩ := Event.service.inj he
    exact h m hm

end Sample

/-- Laptop 1 is shipped. -/
theorem shippedOnce_of_run_ship :
    ShippedOnce Sample.store [⟨0, none⟩, ⟨5, none⟩, ⟨5, some ⟨Sample.waiting, 1⟩⟩]
      ((Sample.ship "courier/1").exec Sample.waiting) := by
  have hdelivered : ∀ r ∈ Sample.store.requests.rows, r.Delivered := by
    unfold Request.Delivered
    decide
  have honce : (Sample.ship "courier/1").ShipsOnce Sample.waiting := by
    rintro r hr -
    obtain rfl := Option.some.inj hr
    exact ⟨by decide, rfl⟩
  have first : Run (Recorded Step fun db e => e.moments db) (fun s e => e.Orderly s ∧ e.ShipsOnce s.1)
      (Sample.store, [⟨0, none⟩]) (Sample.waiting, [⟨0, none⟩, ⟨5, none⟩]) :=
    .step .refl (Sample.call (.assign 1 1 0 10 true 9)) ⟨Sample.call_orderly (by decide), trivial⟩ ⟨rfl, rfl⟩
  have second : Run (Recorded Step fun db e => e.moments db) (fun s e => e.Orderly s ∧ e.ShipsOnce s.1)
      (Sample.store, [⟨0, none⟩]) ((Sample.ship "courier/1").exec Sample.waiting,
        [⟨0, none⟩, ⟨5, none⟩, ⟨5, some ⟨Sample.waiting, 1⟩⟩]) :=
    .step first (Sample.ship "courier/1") ⟨Sample.call_orderly (by decide), honce⟩ ⟨rfl, rfl⟩
  exact (shippedOnce_of_run (by decide : Sample.store.Settled) hdelivered (by decide) second).1

namespace Sample

/-- Laptop 1 is shipped, and arrives. -/
def delivered : Db := (call (.confirmDelivery 1 9)).exec ((ship "courier/1").exec waiting)

/-- Laptop 2, which request 2 has given back, is shipped for request 1, and request 2 is called delivered. -/
def misdelivered : Db := after [call (.completeReturn 2 .available 9), call (.assign 1 2 0 10 true 9),
  ship "courier/1", call (.confirmDelivery 2 9)]

end Sample

/-- Laptop 1 is shipped a second time, after it has arrived: the queue does not have request 1 any more. And
request 2 is delivered without having been shipped. -/
theorem ship_not_fromQueue :
    Sample.store.Settled ∧ (∃ row, (ShippingService.ship 1 "courier/2" 9).Runs Sample.ctx Sample.delivered row
      ((Sample.ship "courier/2").exec Sample.delivered)) ∧ ¬ Shipment.FromQueue ⟨Sample.delivered, 1⟩ ∧
      ∃ r ∈ Sample.misdelivered.requests.get? 2, r.shipCompletedAt = some 5 ∧ r.shipInitiatedAt = none := by
  refine ⟨by decide, ⟨_, rfl⟩, fun h => ?_, ⟨_, rfl, rfl, rfl⟩⟩
  have hrequest : Sample.delivered.requests.get? 1 = some _ := rfl
  have hqueue := (Shipment.fromQueue_iff hrequest (by decide) (by decide)).mp h
  exact nomatch hqueue.2.2

end AssetPilot
