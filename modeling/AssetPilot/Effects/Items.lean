import AssetPilot.Custody.Refinement

/-!
# What can happen to an item

`Event.itemAfter` says once what an event that commits makes of a stored item, apart from `updated_at`, and
`Event.newItem` which item it inserts. A law of every item is carried by `Event.ItemsStep.forall_iff`.
-/

namespace AssetPilot

open Relational Txn
open SQLAlchemyRepository (flushed)

variable {ctx : Ctx} {db db' : Db} {e : Event}

/-- The device that the request points at. -/
def Db.deviceOf (db : Db) (requestId : UUID) : Option UUID :=
  (db.requests.get? requestId).bind Request.assignedItemId

/-- The device that the ticket is about. -/
def Db.ticketItem (db : Db) (ticketId : UUID) : Option UUID :=
  (db.supportRequests.get? ticketId).map SupportRequest.itemId

/-- The owner that a swap writes: the requester of the request that the ticket is tied to. -/
def Db.swapOwner (db : Db) (ticketId : UUID) : Option UUID :=
  (((db.supportRequests.get? ticketId).bind SupportRequest.requestId).bind db.requests.get?).map
    Request.requesterId

/-- The swap of the ticket passes its guards: it finds the device `i` and puts `n` in its place. -/
def Db.Swaps (db : Db) (ticketId : UUID) (newId : Option UUID) (i n : Item) : Prop :=
  ∃ t ∈ db.supportRequests.get? ticketId, t.status ≠ .resolved ∧ db.items.get? t.itemId = some i ∧
    newId.bind db.items.get? = some n ∧ SwapTarget i n ∧ t.requestId.bind db.requests.get? ≠ none

/-- The item handed to an owner. -/
def Item.handed (i : Item) (owner : Option UUID) : Item :=
  { i with status := .assigned, currentOwnerId := owner }

/-- What the call makes of a stored item when it commits. -/
def Op.itemAfter (db : Db) : Op → Item → Item
  | .editItem itemId updates _, i =>
    if i.id = itemId then Model.assign (some i) (InventoryService.editedItem i updates) else i
  | .changeStatus itemId status _ _, i => if i.id = itemId then i.setStatus status else i
  | .assign requestId itemId _ _ _ _, i =>
    if i.id = itemId then i.handed ((db.requests.get? requestId).map Request.requesterId) else i
  | .directAssign itemId employeeId _ _ _, i => if i.id = itemId then i.handed (some employeeId) else i
  | .ship requestId _ _, i => if db.deviceOf requestId = some i.id then i.setStatus .shippingPending else i
  | .confirmDelivery requestId _, i => if db.deviceOf requestId = some i.id then i.setStatus .assigned else i
  | .completeReturn requestId next _, i => if db.deviceOf requestId = some i.id then i.release next else i
  | .start ticketId _, i =>
    if db.ticketItem ticketId = some i.id ∧ ∃ t ∈ db.supportRequests.get? ticketId, t.type = .damage then
      i.setStatus .underRepair
    else i
  | .resolve ticketId .repairedInPlace _ _ _ _, i =>
    if db.ticketItem ticketId = some i.id then i.setStatus .assigned else i
  | .resolve ticketId .swapped _ (some newId) (some next) _, i =>
    if i.id = newId then i.handed (db.swapOwner ticketId)
    else if db.ticketItem ticketId = some i.id then i.release next
    else i
  | .resolve ticketId .markedLost _ _ _ _, i =>
    if db.ticketItem ticketId = some i.id then i.setStatus .lost else i
  | _, i => i

/-- The same of an event: the holder's return is the only step of the employees that writes an item. -/
def Event.itemAfter (db : Db) : Event → Item → Item
  | .service _ op, i => op.itemAfter db i
  | .portal _ (.initiateReturn requestId _ _), i =>
    if db.deviceOf requestId = some i.id then i.setStatus .returnShippingPending else i
  | .portal _ _, i => i

/-- The item that the event inserts when it commits. -/
def Event.newItem : Event → Option Item
  | .service ctx (.createItem name serialNo categoryId ownerType clientName purchaseDate _) =>
    some (Model.assign none (InventoryService.newItem (ctx.uuid4 0) (ctx.uuid4 1) name serialNo categoryId ownerType
      clientName purchaseDate))
  | _ => none

/-- The start of the transaction. -/
def Event.txTime : Event → Datetime
  | .service ctx _ => ctx.txTime
  | .portal ctx _ => ctx.txTime

/-- The session has changed the stored item, so that the flush emits an `UPDATE`; what an edit sets a text to may
be cut back to the stored one. -/
def Event.RewritesItem (db : Db) : Event → Item → Prop
  | .service _ (.editItem itemId updates _), i => i.id = itemId ∧ InventoryService.editedItem i updates ≠ i
  | e, i => e.itemAfter db i ≠ i

instance (db : Db) (e : Event) (i : Item) : Decidable (e.RewritesItem db i) := by
  unfold Event.RewritesItem
  split <;> infer_instance

/-- What an event does to the items: `updated_at` moves to the start of the transaction exactly for an item that
is written. -/
structure Event.TimedStep (db : Db) (e : Event) (db' : Db) : Prop where
  stored : ∀ i, db.items.get? i.id = some i → db'.items.get? i.id = some { e.itemAfter db i with
    updatedAt := if e.RewritesItem db i then e.txTime else i.updatedAt }
  fresh : ∀ k i', db.items.get? k = none → db'.items.get? k = some i' → ∃ i, e.newItem = some i ∧
    i' = { i with createdAt := e.txTime, updatedAt := e.txTime }

/-- The same, whatever the time. -/
structure Event.ItemsStep (db : Db) (e : Event) (db' : Db) : Prop where
  stored : ∀ i, db.items.get? i.id = some i → ∃ u, db'.items.get? i.id =
    some { e.itemAfter db i with updatedAt := u }
  fresh : ∀ k i', db.items.get? k = none → db'.items.get? k = some i' → ∃ i u, e.newItem = some i ∧
    i' = { i with createdAt := u, updatedAt := u }

@[simp] theorem Event.itemAfter_id (i : Item) : (e.itemAfter db i).id = i.id := by
  cases e with
  | service ctx op =>
    simp only [Event.itemAfter]
    unfold Op.itemAfter
    split <;> first | rfl | (repeat' split) <;> rfl
  | portal ctx step =>
    cases step with
    | initiateReturn =>
      simp only [Event.itemAfter]
      split <;> rfl
    | _ => rfl

/-- The event is an edit of an item. -/
def Event.EditsItem : Event → Prop
  | .service _ (.editItem ..) => True
  | _ => False

theorem Event.itemAfter_eq (hedit : ¬ e.EditsItem) (i : Item) :
    ∃ s o, e.itemAfter db i = { i with status := s, currentOwnerId := o } := by
  cases e with
  | service ctx op =>
    cases op
    case editItem => exact absurd trivial hedit
    case resolve ticketId resolution note newId next actorId =>
      cases resolution <;> cases newId <;> cases next <;> simp only [Event.itemAfter, Op.itemAfter] <;>
        (repeat' split) <;> exact ⟨_, _, rfl⟩
    case assign | directAssign | changeStatus | ship | confirmDelivery | completeReturn | start =>
      simp only [Event.itemAfter, Op.itemAfter]
      split <;> exact ⟨_, _, rfl⟩
    all_goals exact ⟨_, _, rfl⟩
  | portal ctx step =>
    cases step with
    | initiateReturn =>
      simp only [Event.itemAfter]
      split <;> exact ⟨_, _, rfl⟩
    | _ => exact ⟨_, _, rfl⟩

theorem Event.rewritesItem_iff (hedit : ¬ e.EditsItem) (i : Item) : e.RewritesItem db i ↔ e.itemAfter db i ≠ i := by
  cases e with
  | service ctx op =>
    cases op
    case editItem => exact absurd trivial hedit
    all_goals exact Iff.rfl
  | portal => exact Iff.rfl

theorem Event.TimedStep.items (h : e.TimedStep db db') : e.ItemsStep db db' where
  stored i hi := ⟨_, h.stored i hi⟩
  fresh k i' hnone hi' := by
    obtain ⟨i, hnew, rfl⟩ := h.fresh k i' hnone hi'
    exact ⟨i, e.txTime, hnew, rfl⟩

/-! ### The shapes of a step -/

theorem Event.TimedStep.of_same (hedit : ¬ e.EditsItem)
    (hafter : ∀ i, db.items.get? i.id = some i → e.itemAfter db i = i) (hsame : db'.items = db.items) :
    e.TimedStep db db' where
  stored i hi := by
    rw [hsame, if_neg fun hrewrites => (Event.rewritesItem_iff hedit i).mp hrewrites (hafter i hi), hafter i hi, hi]
  fresh k i' hnone hi' := by
    rw [hsame, hnone] at hi'
    exact absurd hi' (Option.some_ne_none _).symm

theorem Event.TimedStep.of_set {db₀ : Db} {i i' : Item} {d : UUID} {f : Item → Item}
    (hi : db.items.get? d = some i) (hitems : db₀.items = db.items) (hi' : i' = flushed ctx db₀ (f i))
    (hkeeps : (f i).id = i.id ∧ (f i).updatedAt = i.updatedAt) (htime : e.txTime = ctx.txTime)
    (hafter : ∀ j, e.itemAfter db j = if j.id = d then Model.assign (some j) (f j) else j)
    (hrewrites : ∀ j, e.RewritesItem db j ↔ j.id = d ∧ f j ≠ j) (hset : db'.items = db.items.set i') :
    e.TimedStep db db' := by
  have hkey : i'.id = d := (hi' ▸ hkeeps.1 : i'.id = i.id).trans (Table.get?_key hi)
  have hget : ∀ k, db'.items.get? k = if k = d then some i' else db.items.get? k := by
    intro k
    rw [hset, ← hkey]
    exact Table.get?_set_of_get? (show db.items.get? i'.id = some i from hkey.symm ▸ hi) k
  refine ⟨fun j hj => ?_, fun k y hnone hy => ?_⟩
  · rw [hget, hafter j]
    by_cases hd : j.id = d
    · obtain rfl := Option.some.inj (hi.symm.trans (hd ▸ hj))
      have hstored : db₀.items.get? (f i).id = some i := by rw [hitems, hkeeps.1, hd, hi]
      rw [if_pos hd, if_pos hd, hi', Item.flushed_eq hstored, hkeeps.2, htime]
      simp only [hrewrites, hd, true_and, ne_eq, ite_not]
    · rw [if_neg hd, if_neg hd, if_neg fun hr => hd ((hrewrites j).mp hr).1, hj]
  · rw [hget] at hy
    split at hy
    · next hk => exact absurd (hi.symm.trans (hk ▸ hnone)) (Option.some_ne_none _)
    · exact absurd (hnone.symm.trans hy) (Option.some_ne_none _).symm

theorem Event.TimedStep.of_set_texts {db₀ : Db} {i i' : Item} {d : UUID} {f : Item → Item} (hedit : ¬ e.EditsItem)
    (hi : db.items.get? d = some i) (hitems : db₀.items = db.items) (hi' : i' = flushed ctx db₀ (f i))
    (hkeeps : (f i).id = i.id ∧ (f i).updatedAt = i.updatedAt) (htime : e.txTime = ctx.txTime)
    (htexts : ∀ j, (f j).name = j.name ∧ (f j).serialNo = j.serialNo ∧ (f j).clientName = j.clientName)
    (hafter : ∀ j, e.itemAfter db j = if j.id = d then f j else j) (hset : db'.items = db.items.set i') :
    e.TimedStep db db' := by
  refine .of_set hi hitems hi' hkeeps htime (fun j => ?_) (fun j => ?_) hset
  · rw [hafter, Item.assign_of_texts (htexts j).1 (htexts j).2.1 (htexts j).2.2]
  · rw [Event.rewritesItem_iff hedit, hafter]
    split_ifs with hd <;> simp [hd]

/-- **The rule for laws of every item** that do not mention `updated_at`: after the event the law holds
exactly when it holds of what the event makes of each item. -/
theorem Event.ItemsStep.forall_iff {Q : Item → Prop} (h : e.ItemsStep db db')
    (hQ : ∀ i u, Q { i with updatedAt := u } ↔ Q i)
    (hnew : ∀ i u, e.newItem = some i → Q { i with createdAt := u, updatedAt := u }) :
    (∀ i ∈ db'.items.rows, Q i) ↔ ∀ i ∈ db.items.rows, Q (e.itemAfter db i) := by
  constructor
  · intro hlaw i hi
    obtain ⟨u, hu⟩ := h.stored i (Table.mem_iff_get?.mp hi)
    exact (hQ _ u).mp (hlaw _ (Table.get?_mem hu))
  · intro hlaw i' hi'
    have hget : db'.items.get? i'.id = some i' := Table.mem_iff_get?.mp hi'
    cases hold : db.items.get? i'.id with
    | none =>
      obtain ⟨i, u, hi, rfl⟩ := h.fresh _ i' hold hget
      exact hnew i u hi
    | some i =>
      have hid : i.id = i'.id := Table.get?_key hold
      obtain ⟨u, hu⟩ := h.stored i (hid.symm ▸ hold)
      rw [hid, hget] at hu
      obtain rfl := Option.some.inj hu
      exact (hQ _ u).mpr (hlaw i (Table.get?_mem hold))

/-! ### The operations -/

theorem Db.deviceOf_eq {r : Request} {requestId d : UUID} (hr : db.requests.get? requestId = some r)
    (hd : r.assignedItemId = some d) : db.deviceOf requestId = some d := by
  rw [Db.deviceOf, hr]
  exact hd

theorem Db.ticketItem_eq {t : SupportRequest} {ticketId : UUID}
    (ht : db.supportRequests.get? ticketId = some t) : db.ticketItem ticketId = some t.itemId := by
  rw [Db.ticketItem, ht]
  rfl

theorem Db.Swaps.ticketItem {ticketId : UUID} {newId : Option UUID} {i n : Item} (h : db.Swaps ticketId newId i n) :
    db.ticketItem ticketId = some i.id ∧ db.items.get? i.id = some i := by
  obtain ⟨t, ht, -, hi, -⟩ := h
  have hid : i.id = t.itemId := Table.get?_key hi
  exact ⟨hid ▸ Db.ticketItem_eq ht, hid ▸ hi⟩

theorem some_eq_iff {d k : UUID} : some d = some k ↔ k = d := by
  rw [Option.some_inj, eq_comm]

namespace ShippingService

variable {requestId actorId : UUID} {row : Request}

theorem ship_timed {url : String} (h : (ship requestId url actorId).Runs ctx db row db') :
    (Event.service ctx (.ship requestId url actorId)).TimedStep db db' := by
  obtain ⟨r, hr, -, i, ⟨d, hd, hi⟩, -, r', -, -, i', hi', -, l, -, -, -, rfl⟩ := runs_ship.mp h
  refine .of_set_texts nofun (f := (Item.setStatus · .shippingPending)) hi rfl hi' ⟨rfl, rfl⟩ rfl
      (fun _ => ⟨rfl, rfl, rfl⟩) (fun j => ?_) rfl
  simp only [Event.itemAfter, Op.itemAfter, Db.deviceOf_eq hr hd, some_eq_iff]

theorem confirmDelivery_timed (h : (confirmDelivery requestId actorId).Runs ctx db row db') :
    (Event.service ctx (.confirmDelivery requestId actorId)).TimedStep db db' := by
  obtain ⟨r, hr, i, ⟨d, hd, hi⟩, -, r', -, -, i', hi', -, l, -, -, -, rfl⟩ := runs_confirmDelivery.mp h
  refine .of_set_texts nofun (f := (Item.setStatus · .assigned)) hi rfl hi' ⟨rfl, rfl⟩ rfl
      (fun _ => ⟨rfl, rfl, rfl⟩) (fun j => ?_) rfl
  simp only [Event.itemAfter, Op.itemAfter, Db.deviceOf_eq hr hd, some_eq_iff]

theorem completeReturn_timed {next : DeviceStatus}
    (h : (completeReturn requestId next actorId).Runs ctx db row db') :
    (Event.service ctx (.completeReturn requestId next actorId)).TimedStep db db' := by
  obtain ⟨r, hr, i, ⟨d, hd, hi⟩, -, r', -, -, i', hi', -, l, -, -, l', -, -, ⟨_, hclose⟩, -⟩ :=
    runs_completeReturn.mp h
  obtain ⟨ts, -, hclosed⟩ := runs_autoCloseOpenSupport hclose
  refine .of_set_texts nofun (f := (Item.release · next)) hi rfl hi' ⟨rfl, rfl⟩ rfl
      (fun _ => ⟨rfl, rfl, rfl⟩) (fun j => ?_) hclosed.items
  simp only [Event.itemAfter, Op.itemAfter, Db.deviceOf_eq hr hd, some_eq_iff]

end ShippingService

namespace SupportService

variable {ticketId actorId : UUID} {row : SupportRequest}

theorem start_timed (h : (start ticketId actorId).Runs ctx db row db') :
    (Event.service ctx (.start ticketId actorId)).TimedStep db db' := by
  obtain ⟨t, ht, -, t', ht', -, ⟨_, hrepair⟩, -⟩ := runs_start.mp h
  have htype : t'.type = t.type := ht' ▸ rfl
  have hitem : t'.itemId = t.itemId := ht' ▸ rfl
  rcases runs_startRepair.mp hrepair with ⟨hother, rfl⟩ | ⟨hdamage, i, hi, i', hi', -, l, -, -, rfl⟩
  · refine .of_same nofun (fun j _ => if_neg ?_) rfl
    rintro ⟨-, x, hx, hdamage⟩
    obtain rfl := Option.some.inj (ht.symm.trans hx)
    exact hother (htype.trans hdamage)
  · refine .of_set_texts nofun (f := (Item.setStatus · .underRepair)) (hitem ▸ hi) rfl hi' ⟨rfl, rfl⟩ rfl
      (fun _ => ⟨rfl, rfl, rfl⟩) (fun j => ?_) rfl
    have hrepairs : ∃ x ∈ db.supportRequests.get? ticketId, x.type = .damage := ⟨t, ht, htype.symm.trans hdamage⟩
    simp only [Event.itemAfter, Op.itemAfter, Db.ticketItem_eq ht, some_eq_iff, and_iff_left hrepairs]

theorem swap_timed {t : SupportRequest} {i : Item} {newId : UUID} {next : DeviceStatus} {note : Option String}
    {u : Unit} (ht : db.supportRequests.get? ticketId = some t) (hi : db.items.get? t.itemId = some i)
    (h : (swap t i newId next actorId).Runs ctx db u db') :
    (Event.service ctx (.resolve ticketId .swapped note (some newId) (some next) actorId)).TimedStep db db' := by
  obtain ⟨hne, p, hp, n, hn, -, -, r, hr, r', -, -, db₁, rfl, o', ho', -, db₂, rfl, n', hn', -, l, -, -, l',
    -, -, rfl⟩ := runs_swap.mp h
  have hold : i.id = t.itemId := Table.get?_key hi
  have hoid : o'.id = i.id := ho' ▸ rfl
  have hnid : n'.id = newId := (hn' ▸ rfl : n'.id = n.id).trans (Table.get?_key hn)
  have howner : db.swapOwner ticketId = some r.requesterId := by
    simp [Db.swapOwner, ht, hp, hr]
  have hget : ∀ k, ((db.items.set o').set n').get? k =
      if k = newId then some n' else if k = t.itemId then some o' else db.items.get? k := by
    intro k
    rw [← hold, ← hoid, ← hnid]
    exact Table.get?_set_set (show db.items.get? o'.id = some i from hoid ▸ hold ▸ hi)
      (show db.items.get? n'.id = some n from hnid ▸ hn) (show n'.id ≠ o'.id from hnid ▸ hoid ▸ hne) k
  have hold' : o' = { i.release next with
      updatedAt := if i.release next = i then i.updatedAt else ctx.txTime } :=
    ho'.trans (Item.flushed_of_texts (show db.items.get? i.id = some i from hold ▸ hi) ⟨rfl, rfl, rfl⟩)
  have hnew' : n' = { n.handed (some r.requesterId) with
      updatedAt := if n.handed (some r.requesterId) = n then n.updatedAt else ctx.txTime } := by
    refine hn'.trans (Item.flushed_of_texts (show (db.items.set o').get? n.id = some n from ?_) ⟨rfl, rfl, rfl⟩)
    have hid : n.id = newId := Table.get?_key hn
    rw [hid, Table.get?_set_of_ne (show newId ≠ o'.id from hoid ▸ hne), hn]
  have hedit : ¬ (Event.service ctx (.resolve ticketId .swapped note (some newId) (some next) actorId)).EditsItem :=
    nofun
  have hafter : ∀ j, (Event.service ctx (.resolve ticketId .swapped note (some newId) (some next) actorId)).itemAfter
      db j = if j.id = newId then j.handed (some r.requesterId) else if j.id = t.itemId then j.release next else j := by
    intro j
    simp only [Event.itemAfter, Op.itemAfter, howner, Db.ticketItem_eq ht, some_eq_iff]
  refine ⟨fun j hj => ?_, fun k y hnone hy => ?_⟩
  · refine (show ((db.items.set o').set n').get? j.id = _ from ?_)
    rw [hget]
    simp only [Event.rewritesItem_iff hedit, hafter, ne_eq, ite_not]
    by_cases hjn : j.id = newId
    · obtain rfl := Option.some.inj (hn.symm.trans (hjn ▸ hj))
      simp only [if_pos hjn, hnew']
      rfl
    · by_cases hjo : j.id = t.itemId
      · obtain rfl := Option.some.inj (hi.symm.trans (hjo ▸ hj))
        simp only [if_neg hjn, if_pos hjo, hold']
        rfl
      · simp only [if_neg hjn, if_neg hjo, if_true, hj]
  · have hy' : ((db.items.set o').set n').get? k = some y := hy
    rw [hget] at hy'
    split at hy'
    · next hk => exact absurd (hn.symm.trans (hk ▸ hnone)) (Option.some_ne_none _)
    · split at hy'
      · next hk => exact absurd (hi.symm.trans (hk ▸ hnone)) (Option.some_ne_none _)
      · exact absurd (hnone.symm.trans hy') (Option.some_ne_none _).symm

theorem resolve_timed {resolution : SupportResolution} {note : Option String} {newId : Option UUID}
    {next : Option DeviceStatus} (h : (resolve ticketId resolution note newId next actorId).Runs ctx db row db') :
    (Event.service ctx (.resolve ticketId resolution note newId next actorId)).TimedStep db db' := by
  obtain ⟨t, ht, -, i, hi, _, db₁, happly, t', -, -, -, -, rfl⟩ := runs_resolve.mp h
  have hedit : ¬ (Event.service ctx (.resolve ticketId resolution note newId next actorId)).EditsItem := nofun
  have hstep : (Event.service ctx (.resolve ticketId resolution note newId next actorId)).TimedStep db db₁ := by
    cases resolution with
    | remoteResolved =>
      simp only [applyResolution, runs_pure] at happly
      obtain ⟨-, rfl⟩ := happly
      exact .of_same hedit (fun _ _ => rfl) rfl
    | repairedInPlace =>
      obtain ⟨-, i', hi', -, l, -, -, rfl⟩ := runs_repairInPlace.mp happly
      refine .of_set_texts hedit (f := (Item.setStatus · .assigned)) hi rfl hi' ⟨rfl, rfl⟩ rfl
        (fun _ => ⟨rfl, rfl, rfl⟩) (fun j => ?_) rfl
      simp only [Event.itemAfter, Op.itemAfter, Db.ticketItem_eq ht, some_eq_iff]
    | swapped =>
      simp only [applyResolution, runs_bind, runs_orRaise] at happly
      obtain ⟨n, _, ⟨rfl, rfl⟩, s, _, ⟨rfl, rfl⟩, happly⟩ := happly
      exact swap_timed ht hi happly
    | markedLost =>
      obtain ⟨p, -, r, -, i', hi', -, r', -, -, l, -, -, rfl⟩ := runs_markLost.mp happly
      refine .of_set_texts hedit (f := (Item.setStatus · .lost)) hi rfl hi' ⟨rfl, rfl⟩ rfl
        (fun _ => ⟨rfl, rfl, rfl⟩) (fun j => ?_) rfl
      simp only [Event.itemAfter, Op.itemAfter, Db.ticketItem_eq ht, some_eq_iff]
  exact ⟨hstep.stored, hstep.fresh⟩

theorem swapped_request {note : Option String} {newId : Option UUID} {next : Option DeviceStatus}
    (h : (resolve ticketId .swapped note newId next actorId).Runs ctx db row db') :
    ∃ t i n s r u, db.supportRequests.get? ticketId = some t ∧ t.status ≠ .resolved ∧
      db.items.get? t.itemId = some i ∧ newId = some n.id ∧ next = some s ∧ db.items.get? n.id = some n ∧
      SwapTarget i n ∧ t.requestId = some r.id ∧ db.requests.get? r.id = some r ∧
      db'.requests.get? r.id = some { r with assignedItemId := some n.id, updatedAt := u } := by
  obtain ⟨t, ht, hopen, i, hi, _, db₁, happly, t', -, -, -, -, rfl⟩ := runs_resolve.mp h
  simp only [applyResolution, runs_bind, runs_orRaise] at happly
  obtain ⟨newId, db, ⟨rfl, rfl⟩, s, db, ⟨rfl, rfl⟩, happly⟩ := happly
  obtain ⟨hne, q, hq, n, hn, hcategory, havail, r, hr, r', hr', -, db₂, rfl, o', -, -, db₃, rfl, n', -, -,
    l, -, -, l', -, -, rfl⟩ := runs_swap.mp happly
  obtain rfl : n.id = newId := Table.get?_key hn
  obtain rfl : r.id = q := Table.get?_key hr
  have hid : r'.id = r.id := hr' ▸ rfl
  refine ⟨t, i, n, s, r, r'.updatedAt, ht, hopen, hi, rfl, rfl, hn, ⟨hne, hcategory, havail⟩, hq, hr, ?_⟩
  refine (Table.get?_set_self hr hid).trans ?_
  rw [hr']
  rfl

theorem swaps_of_runs {note : Option String} {newId : Option UUID} {next : Option DeviceStatus}
    (h : (resolve ticketId .swapped note newId next actorId).Runs ctx db row db') :
    ∃ i n, db.Swaps ticketId newId i n ∧ db.ticketItem ticketId = some i.id ∧ db.items.get? i.id = some i ∧
      newId = some n.id ∧ n.id ≠ i.id ∧ ∃ s, next = some s := by
  obtain ⟨t, i, n, s, r, u, ht, hopen, hi, rfl, rfl, hn, htarget, htied, hr, -⟩ := swapped_request h
  have hid : i.id = t.itemId := Table.get?_key hi
  refine ⟨i, n, ⟨t, ht, hopen, hi, hn, htarget, ?_⟩, hid ▸ Db.ticketItem_eq ht, hid ▸ hi, rfl, htarget.1, s, rfl⟩
  rw [htied, Option.bind_some, hr]
  exact Option.some_ne_none r

end SupportService

/-- **What a committed call makes of the items.** -/
theorem Op.timed {op : Op} (h : op.run.Runs ctx db () db') : (Event.service ctx op).TimedStep db db' := by
  by_cases hleaves : op.leavesItems = true
  · refine .of_same (fun hedit => ?_) (fun i _ => ?_) (Op.items_of_leavesItems hleaves h).1
    · cases op <;> first | exact hedit | exact absurd hleaves Bool.false_ne_true
    · cases op <;> first | rfl | exact absurd hleaves Bool.false_ne_true
  cases op <;> obtain ⟨row, h⟩ := runs_discard.mp h
  case createItem =>
    obtain ⟨-, -, hfresh, i', hi', -, -, -, rfl⟩ := InventoryService.runs_createItem.mp h
    have hget := Table.get?_insert (show db.items.get? i'.id = none from hi' ▸ hfresh)
    refine ⟨fun j hj => (hget j.id).trans ((if_neg ?_).trans ?_), fun k y hnone hy => ?_⟩
    · intro hk
      exact absurd ((hi' ▸ hfresh : db.items.get? i'.id = none).symm.trans (hk ▸ hj)) (Option.some_ne_none _).symm
    · rw [if_neg (show ¬ Event.RewritesItem db (.service ctx (.createItem ..)) j from fun hne => hne rfl), hj]
      rfl
    · have hy' : (db.items.insert i').get? k = some y := hy
      rw [hget] at hy'
      split at hy'
      · obtain rfl := Option.some.inj hy'
        exact ⟨_, rfl, hi'⟩
      · exact absurd (hnone.symm.trans hy') (Option.some_ne_none _).symm
  case editItem =>
    obtain ⟨i, hi, -, i', hi', -, ⟨_, hlog⟩, -⟩ := InventoryService.runs_editItem.mp h
    rcases InventoryService.runs_logChanges.mp hlog with ⟨-, rfl⟩ | ⟨-, -, rfl⟩
    · exact .of_set (f := (InventoryService.editedItem · _)) hi rfl hi' ⟨rfl, rfl⟩ rfl
        (fun _ => rfl) (fun _ => Iff.rfl) rfl
    · exact .of_set (f := (InventoryService.editedItem · _)) hi rfl hi' ⟨rfl, rfl⟩ rfl
        (fun _ => rfl) (fun _ => Iff.rfl) rfl
  case changeStatus =>
    obtain ⟨i, hi, i', hi', -, l, -, -, -, rfl⟩ := InventoryService.runs_changeStatus.mp h
    exact .of_set_texts nofun (f := (Item.setStatus · _)) hi rfl hi' ⟨rfl, rfl⟩ rfl
      (fun _ => ⟨rfl, rfl, rfl⟩) (fun _ => rfl) rfl
  case assign =>
    obtain ⟨r, hr, -, i, hi, -, -, -, r', -, -, i', hi', -, -, -, rfl⟩ := AssignmentService.runs_assign.mp h
    refine .of_set_texts nofun (f := (Item.handed · (some r.requesterId))) hi rfl hi' ⟨rfl, rfl⟩ rfl
      (fun _ => ⟨rfl, rfl, rfl⟩) (fun j => ?_) rfl
    simp only [Event.itemAfter, Op.itemAfter, hr, Option.map_some]
  case directAssign =>
    obtain ⟨i, hi, -, -, -, u, -, -, r', -, -, -, i', hi', -, -, -, rfl⟩ :=
      AssignmentService.runs_directAssign.mp h
    exact .of_set_texts nofun (f := (Item.handed · _)) hi rfl hi' ⟨rfl, rfl⟩ rfl
      (fun _ => ⟨rfl, rfl, rfl⟩) (fun _ => rfl) rfl
  case ship => exact ShippingService.ship_timed h
  case confirmDelivery => exact ShippingService.confirmDelivery_timed h
  case completeReturn => exact ShippingService.completeReturn_timed h
  case start => exact SupportService.start_timed h
  case resolve => exact SupportService.resolve_timed h
  case approveExtension =>
    obtain ⟨x, -, -, -, r, -, r', -, -, x', -, -, d, -, l, -, -, -, rfl⟩ := ExtensionService.runs_approve.mp h
    exact .of_same nofun (fun _ _ => rfl) rfl
  case rejectExtension =>
    obtain ⟨x, -, -, r, -, x', -, -, d, -, l, -, -, -, rfl⟩ := ExtensionService.runs_reject.mp h
    exact .of_same nofun (fun _ _ => rfl) rfl
  all_goals exact absurd rfl hleaves

/-- **What a committed event makes of the items.** -/
theorem Event.Commits.timed (h : e.Commits db db') : e.TimedStep db db' := by
  cases h with
  | service h => exact Op.timed h
  | @portal ctx step db' h =>
    have hitems := (step.frame h).2
    cases step with
    | initiateReturn q url now =>
      obtain ⟨r, hr, i, ⟨d, hd, hi⟩, -, r', -, -, i', hi', -, rfl⟩ := PortalStep.runs_initiateReturn.mp h
      refine .of_set_texts nofun (f := (Item.setStatus · .returnShippingPending)) hi rfl hi' ⟨rfl, rfl⟩ rfl
        (fun _ => ⟨rfl, rfl, rfl⟩) (fun j => ?_) rfl
      simp only [Event.itemAfter, Db.deviceOf_eq hr hd, some_eq_iff]
    | _ => exact .of_same nofun (fun _ _ => rfl) (hitems nofun)

theorem Event.Commits.items (h : e.Commits db db') : e.ItemsStep db db' := h.timed.items

end AssetPilot
