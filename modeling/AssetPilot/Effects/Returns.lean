import AssetPilot.Invariants.Store

/-!
# What a completed return does

The whole effect of a successful `complete_return`: the request, its device, the tickets that are closed with
it, the rows that it logs, and that it writes nothing else.
-/

namespace AssetPilot

open Relational Txn ShippingService

variable {ctx : Ctx} {db db' : Db} {requestId actorId : UUID} {next : DeviceStatus} {row : Request}

/-- The ticket is about the device, and waits for the administrators or is being worked on. -/
def SupportRequest.IsOpenFor (itemId : UUID) (t : SupportRequest) : Prop :=
  t.itemId = itemId ∧ (t.status = .opened ∨ t.status = .inProgress)

/-- `t'` is the ticket `t` as it is closed with the return of its device: resolved, at some time, with every
column kept that says how and by whom. -/
structure SupportRequest.ClosedAs (t t' : SupportRequest) : Prop where
  columns : t' = { t with
    status := .resolved
    autoClosed := true
    resolvedAt := t'.resolvedAt
    updatedAt := t'.updatedAt }
  resolvedAt : t'.resolvedAt ≠ none

/-- The rows that close the assignment of the device. -/
def returnRows (ctx : Ctx) (r : Request) (i : Item) (next : DeviceStatus) (actorId : UUID) : List DeviceLog :=
  [{ itemId := i.id
     eventType := .returnReceived
     actorId := some actorId
     actorRole := .itAdmin
     requestId := some r.id
     fromValue := some i.status.value
     toValue := some next.value
     isMilestone := true
     occurredAt := ctx.txTime },
   { itemId := i.id
     eventType := .assignmentCompleted
     actorId := some actorId
     actorRole := .itAdmin
     requestId := some r.id
     isMilestone := true
     occurredAt := ctx.txTime }]

/-- The row that the system logs for a ticket it closes. -/
def autoClosedRow (ctx : Ctx) (i : Item) (t : SupportRequest) : DeviceLog where
  itemId := i.id
  eventType := .supportAutoClosed
  actorId := none
  actorRole := .system
  supportRequestId := some t.id
  occurredAt := ctx.txTime

/-- The request `r` is completed, and its device `i` is back in the status `next`. -/
structure ReturnCompleted (ctx : Ctx) (r : Request) (i : Item) (next : DeviceStatus) (actorId : UUID)
    (db db' : Db) : Prop where
  request : ∃ now u, db'.requests.get? r.id = some { r with
    status := .completed
    completedAt := some now
    completedBy := some actorId
    completedNextStatus := some next
    updatedAt := u }
  item : ∃ u, db'.items.get? i.id = some { i with status := next, currentOwnerId := none, updatedAt := u }
  tickets : ∀ t ∈ db.supportRequests.rows, t.IsOpenFor i.id →
    ∃ t' ∈ db'.supportRequests.get? t.id, t.ClosedAs t'
  log : ∃ ts : List SupportRequest, ts.Pairwise (fun x y => x.filedAt ≤ y.filedAt) ∧
    (ts.map SupportRequest.id).Nodup ∧ (∀ t, t ∈ ts ↔ t ∈ db.supportRequests.rows ∧ t.IsOpenFor i.id) ∧
      db'.deviceLog = db.deviceLog ++ returnRows ctx r i next actorId ++ ts.map (autoClosedRow ctx i)
  otherRequests : ∀ k, k ≠ r.id → db'.requests.get? k = db.requests.get? k
  otherItems : ∀ k, k ≠ i.id → db'.items.get? k = db.items.get? k
  otherTickets : ∀ k, (∀ t ∈ db.supportRequests.get? k, ¬ t.IsOpenFor i.id) →
    db'.supportRequests.get? k = db.supportRequests.get? k
  otherTables : db' = { db with
    requests := db'.requests
    items := db'.items
    supportRequests := db'.supportRequests
    deviceLog := db'.deviceLog }

theorem SupportRequest.isOpenFor_iff {itemId : UUID} {t : SupportRequest} :
    t.IsOpenFor itemId ↔ t.itemId = itemId ∧ t.status ≠ .resolved := by
  unfold SupportRequest.IsOpenFor
  cases t.status <;> simp

theorem ShippingService.IsClosed.closedAs {t : SupportRequest} (h : IsClosed db' t) :
    ∃ t' ∈ db'.supportRequests.get? t.id, t.ClosedAs t' := by
  obtain ⟨now, u, hget⟩ := h
  exact ⟨_, hget, rfl, Option.some_ne_none now⟩

/-- **A return closes exactly the open tickets of its device**, and does all the rest that it has to do and
nothing else. -/
theorem completeReturn_completes (h : (completeReturn requestId next actorId).Runs ctx db row db') :
    ∃ r i, db.requests.get? requestId = some r ∧ r.assignedItemId = some i.id ∧ db.items.get? i.id = some i ∧
      ReturnCompleted ctx r i next actorId db db' := by
  obtain ⟨r, hr, i, ⟨d, hd, hi⟩, -, r', hr', -, i', hi', -, l, rfl, -, l', rfl, -, ⟨_, hclose⟩, -⟩ :=
    runs_completeReturn.mp h
  obtain rfl : i.id = d := Table.get?_key hi
  obtain rfl : r.id = requestId := Table.get?_key hr
  have hrid : r'.id = r.id := hr' ▸ rfl
  have hiid : i'.id = i.id := hi' ▸ rfl
  obtain ⟨ts, hsorted, hnodup, hts, hclosed⟩ := cascade_in_order hclose
  rw [hiid] at hts
  have hopen : ∀ t, t ∈ ts ↔ t ∈ db.supportRequests.rows ∧ t.IsOpenFor i.id := fun t =>
    (hts t).trans (and_congr_right fun _ => SupportRequest.isOpenFor_iff.symm)
  refine ⟨r, i, hr, hd, hi, ?_⟩
  constructor
  case request =>
    refine ⟨ctx.clock 0, r'.updatedAt, ?_⟩
    rw [hclosed.requests]
    exact (Table.get?_set_self hr hrid).trans (by rw [hr']; rfl)
  case item =>
    refine ⟨i'.updatedAt, ?_⟩
    rw [hclosed.items]
    have hstored : (db.setRequest r').items.get? (i.release next).id = some i := hi
    refine (Table.get?_set_self hi hiid).trans ?_
    rw [hi', Item.flushed_of_texts hstored ⟨rfl, rfl, rfl⟩]
    rfl
  case tickets => exact fun t ht hfor => (hclosed.closed t ((hopen t).mpr ⟨ht, hfor⟩)).closedAs
  case log =>
    refine ⟨ts, hsorted, hnodup, hopen, ?_⟩
    rw [hclosed.deviceLog, hiid, hrid]
    simp only [Db.appendLog, Db.setItem, Db.setRequest, List.append_assoc]
    rfl
  case otherRequests =>
    intro k hk
    rw [hclosed.requests]
    exact Table.get?_set_of_ne (show k ≠ r'.id from hrid ▸ hk)
  case otherItems =>
    intro k hk
    rw [hclosed.items]
    exact Table.get?_set_of_ne (show k ≠ i'.id from hiid ▸ hk)
  case otherTickets =>
    intro k hk
    refine hclosed.others k fun t ht he => ?_
    obtain ⟨hmem, hfor⟩ := (hopen t).mp ht
    exact hk t (he ▸ Table.mem_iff_get?.mp hmem) hfor
  case otherTables =>
    rw [hclosed.frame]
    rfl

/-- Laptop 2 comes back for repair: the ticket about it is closed. -/
theorem completeReturn_completes_repair :
    ∃ t ∈ (Sample.after [Sample.call (.completeReturn 2 .underRepair 9)]).supportRequests.get? 1,
      (Sample.ticket 1 2 2 2 .damage).ClosedAs t := by
  obtain ⟨r, i, hr, hd, hi, hcompleted⟩ := completeReturn_completes
    (show (completeReturn 2 .underRepair 9).Runs Sample.ctx Sample.store _
      (Sample.after [Sample.call (.completeReturn 2 .underRepair 9)]) from rfl)
  obtain rfl : Sample.request 2 2 .assigned (some 2) = r := Option.some.inj hr
  obtain hid : 2 = i.id := Option.some.inj hd
  exact hcompleted.tickets (Sample.ticket 1 2 2 2 .damage) (List.mem_singleton_self _) ⟨hid, .inl rfl⟩

end AssetPilot
