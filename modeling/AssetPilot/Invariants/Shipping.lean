import AssetPilot.Invariants.Ownership

/-!
# Shipping and returns act for the holder

`ship`, `confirm_delivery` and `complete_return` look at the status of the item that the request points
at, and an ended request points at its item forever. They act for the holder exactly when the request is
not ended.
-/

namespace AssetPilot

open Relational Custody System Txn

variable {db db' : Db}

/-- The request that a shipping or return operation is called for. -/
def Op.shippedRequest : Op → Option UUID
  | .ship requestId _ _ => some requestId
  | .confirmDelivery requestId _ => some requestId
  | .completeReturn requestId _ _ => some requestId
  | _ => none

/-- The operation from `db` to `db'` acted for the holder: its request was assigned, and every other
assigned request still has its item, with the same status and owner. -/
structure ActsForHolder (requestId : UUID) (db db' : Db) : Prop where
  holder : ∃ r ∈ db.requests.get? requestId, r.status = .assigned
  frame : ∀ q ∈ db.requests.rows, q.id ≠ requestId → q.status = .assigned →
    db'.requests.get? q.id = some q ∧ ∀ d, q.assignedItemId = some d →
      (db'.items.get? d).map Item.custody = (db.items.get? d).map Item.custody

theorem shipping_writes {ctx : Ctx} {op : Op} {requestId : UUID} (hop : op.shippedRequest = some requestId)
    (h : op.run.Runs ctx db () db') :
    ∃ r d, db.requests.get? requestId = some r ∧ r.assignedItemId = some d ∧
      ∃ r' : Request, r'.id = requestId ∧ db'.requests = db.requests.set r' ∧
      ∃ i' : Item, i'.id = d ∧ db'.items = db.items.set i' := by
  cases op with
  | ship =>
    obtain rfl := Option.some.inj hop
    obtain ⟨row, h⟩ := runs_discard.mp h
    obtain ⟨r, hr, -, i, ⟨d, hd, hi⟩, -, r', hr', -, i', hi', -, _, -, -, -, rfl⟩ :=
      ShippingService.runs_ship.mp h
    have hrid : r'.id = r.id := hr' ▸ rfl
    have hiid : i'.id = d := hi' ▸ Table.get?_key hi
    exact ⟨r, d, hr, hd, r', hrid.trans (Table.get?_key hr), rfl, i', hiid, rfl⟩
  | confirmDelivery =>
    obtain rfl := Option.some.inj hop
    obtain ⟨row, h⟩ := runs_discard.mp h
    obtain ⟨r, hr, i, ⟨d, hd, hi⟩, -, r', hr', -, i', hi', -, _, -, -, -, rfl⟩ :=
      ShippingService.runs_confirmDelivery.mp h
    have hrid : r'.id = r.id := hr' ▸ rfl
    have hiid : i'.id = d := hi' ▸ Table.get?_key hi
    exact ⟨r, d, hr, hd, r', hrid.trans (Table.get?_key hr), rfl, i', hiid, rfl⟩
  | completeReturn =>
    obtain rfl := Option.some.inj hop
    obtain ⟨row, h⟩ := runs_discard.mp h
    obtain ⟨r, hr, i, ⟨d, hd, hi⟩, -, r', hr', -, i', hi', -, _, -, -, _, -, -, ⟨_, hclose⟩, -⟩ :=
      ShippingService.runs_completeReturn.mp h
    have hrid : r'.id = r.id := hr' ▸ rfl
    have hiid : i'.id = d := hi' ▸ Table.get?_key hi
    -- the cascade writes only tickets and the log
    obtain ⟨ts, -, hclosed⟩ := ShippingService.runs_autoCloseOpenSupport hclose
    exact ⟨r, d, hr, hd, r', hrid.trans (Table.get?_key hr), hclosed.requests, i', hiid, hclosed.items⟩
  | _ => exact nomatch hop

theorem actsForHolder_iff {ctx : Ctx} {op : Op} {requestId : UUID} (hsound : Sound db.custody)
    (hcarried : Carried db.custody) (hop : op.shippedRequest = some requestId)
    (h : op.run.Runs ctx db () db') :
    ActsForHolder requestId db db' ↔ ∀ r ∈ db.requests.get? requestId, r.status ∉ _TERMINAL_STATUSES := by
  constructor
  · rintro ⟨⟨r, hr, hassigned⟩, -⟩ q hq
    obtain rfl := Option.some.inj (Eq.trans (Eq.symm hr) hq)
    rw [hassigned]
    decide
  · intro hopen
    obtain ⟨r, d, hr, hd, r', hrid, hrequests, i', hiid, hitems⟩ := shipping_writes hop h
    have hended : ¬ Ended r.status := fun he => hopen r hr (mem_TERMINAL_STATUSES.mpr he)
    have hassigned : r.status = .assigned :=
      hcarried.assigned (Db.custody_claim hr) (show r.assignedItemId ≠ none from hd ▸ nofun) hended
    refine ⟨⟨r, hr, hassigned⟩, fun q hq hne hqassigned => ⟨?_, fun e he => ?_⟩⟩
    · rw [hrequests, Table.get?_set_of_ne (show q.id ≠ r'.id from hrid ▸ hne)]
      exact Table.mem_iff_get?.mp hq
    · -- the item of another assigned request is another item
      have hed : e ≠ d := by
        rintro rfl
        have hopenq : ¬ Ended q.claim.status := by
          show ¬ Ended q.status
          rw [hqassigned]
          decide
        exact hne (hsound.unique (Db.custody_claim (Table.mem_iff_get?.mp hq)) (Db.custody_claim hr) he hd
          (hqassigned.trans hassigned.symm) hopenq)
      rw [hitems, Table.get?_set_of_ne (show e ≠ i'.id from hiid ▸ hed)]

/-- **Shipping and returns act for the holder** exactly when the request has not ended, in every state
that a run reaches. -/
theorem actsForHolder_of_run (h : db.Settled) (run : Run Step TicketsTied db db') :
    ∀ ctx op requestId db'', Op.shippedRequest op = some requestId → op.run.Runs ctx db' () db'' →
      (ActsForHolder requestId db' db'' ↔
        ∀ r ∈ db'.requests.get? requestId, r.status ∉ _TERMINAL_STATUSES) := by
  intro ctx op requestId db'' hop hruns
  obtain ⟨hsound, hcarried⟩ := carried_of_run h run
  exact actsForHolder_iff hsound hcarried hop hruns

/-- Laptop 1 is handed out, and laptop 2 comes back. -/
theorem actsForHolder_of_run_assign :
    let db := Sample.after [Sample.call (.assign 1 1 0 10 false 9)]
    ActsForHolder 2 db ((Sample.call (.completeReturn 2 .available 9)).exec db) ↔
      ∀ r ∈ db.requests.get? 2, r.status ∉ _TERMINAL_STATUSES :=
  actsForHolder_of_run (by decide : Sample.store.Settled)
    (.step .refl (Sample.call (.assign 1 1 0 10 false 9)) trivial rfl)
    Sample.ctx (.completeReturn 2 .available 9) 2 _ rfl rfl

/-- Laptop 2 comes back and is handed to employee 1. -/
def Sample.reassigned : Db :=
  after [call (.completeReturn 2 .available 9), call (.assign 1 2 0 10 false 9)]

/-- The completed request 2 then takes laptop 2 from employee 1. -/
theorem completeReturn_not_actsForHolder :
    Sample.store.Settled ∧
      (Op.completeReturn 2 .retired 9).run.Runs Sample.ctx Sample.reassigned ()
        ((Sample.call (.completeReturn 2 .retired 9)).exec Sample.reassigned) ∧
      ¬ ActsForHolder 2 Sample.reassigned
        ((Sample.call (.completeReturn 2 .retired 9)).exec Sample.reassigned) := by
  refine ⟨by decide, rfl, fun h => ?_⟩
  obtain ⟨-, hitem⟩ := h.frame { Sample.request 1 1 .assigned (some 2) with
    itDecidedBy := some 9, itDecidedAt := some 5, updatedAt := 5 } (by decide) (by decide) rfl
  have hsame := hitem 2 rfl
  revert hsame
  decide

end AssetPilot
