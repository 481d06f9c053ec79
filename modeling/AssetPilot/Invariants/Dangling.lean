import AssetPilot.Invariants.Tickets
import AssetPilot.Effects.Inversion

/-!
# Completed requests and their open tickets

A request is completed by its return or by the loss of its device. The return closes the open tickets of
the device and the loss the one ticket it is a resolution of; the tickets that are tied to the request are
not asked for. All of them are closed as long as the request has no other.
-/

namespace AssetPilot

open Relational System Txn

variable {ctx : Ctx} {db db' : Db} {e : Event}

/-- The tickets of completed requests are resolved. -/
def Db.NoDangling (db : Db) : Prop :=
  ∀ t ∈ db.supportRequests.rows, ∀ r ∈ db.requests.rows,
    t.requestId = some r.id → r.status = .completed → t.status = .resolved

instance (db : Db) : Decidable db.NoDangling := inferInstanceAs (Decidable (∀ t ∈ _, _))

/-- The call completes no request that keeps an open ticket: the open tickets of a returned request are
about the device it returns, and a loss is the only open ticket of its request. -/
def Op.ClosesTickets (db : Db) : Op → Prop
  | .completeReturn requestId _ _ => ∀ r ∈ db.requests.get? requestId,
      ∀ i ∈ r.assignedItemId.bind db.items.get?, i.status ∈ ShippingService._RETURN_ELIGIBLE_STATUSES →
        ∀ t ∈ db.supportRequests.rows, t.status ≠ .resolved → t.requestId = some r.id → t.itemId = i.id
  | .resolve ticketId .markedLost _ _ _ _ =>
      ∀ t ∈ db.supportRequests.get? ticketId, t.status ≠ .resolved → ∀ r ∈ db.tiedRequest t,
        db.items.get? t.itemId ≠ none → ¬ db.SharesRequest t
  | _ => True

/-- The same, with the assumption on the employees' side: a ticket is filed on the device of an assigned
request, and tied to that request. -/
def Event.ClosesTickets (db : Db) : Event → Prop
  | .service _ op => op.ClosesTickets db
  | .portal _ (.fileTicket ticket) => db.AboutBooking ticket
  | .portal _ _ => True

/-! ### Where open tickets and completed requests come from -/

theorem Event.TicketsStep.unresolved (h : e.TicketsStep db db') {t' : SupportRequest}
    (ht' : t' ∈ db'.supportRequests) (hopen' : t'.status ≠ .resolved) :
    (∃ t ∈ db.supportRequests, t.id = t'.id ∧ t.requestId = t'.requestId ∧ t.itemId = t'.itemId ∧
      t.status ≠ .resolved) ∨
    ∃ ctx t, e = .portal ctx (.fileTicket t) ∧ t.requestId = t'.requestId := by
  cases h with
  | same hsame =>
    rw [hsame] at ht'
    exact .inl ⟨t', ht', rfl, rfl, rfl, hopen'⟩
  | start he ht hopen hset =>
    rw [hset] at ht'
    rcases Table.mem_set.mp ht' with ⟨rfl, -⟩ | ⟨ht', -⟩
    · refine .inl ⟨_, Table.get?_mem ht, rfl, rfl, rfl, ?_⟩
      rw [hopen]
      decide
    · exact .inl ⟨t', ht', rfl, rfl, rfl, hopen'⟩
  | resolve he ht hopen hset =>
    rw [hset] at ht'
    rcases Table.mem_set.mp ht' with ⟨rfl, -⟩ | ⟨ht', -⟩
    · exact absurd rfl hopen'
    · exact .inl ⟨t', ht', rfl, rfl, rfl, hopen'⟩
  | @autoClose _ _ _ _ _ ts he hts hnodup hothers hclosed =>
    by_cases hmem : ∃ t ∈ ts, t.id = t'.id
    · obtain ⟨t, ht, hid⟩ := hmem
      obtain ⟨now, u, hrow⟩ := hclosed t ht
      have hget : db'.supportRequests.get? t'.id = some t' := Table.mem_iff_get?.mp ht'
      obtain rfl := Option.some.inj ((hid ▸ hget).symm.trans hrow)
      exact absurd rfl hopen'
    · have hget : db'.supportRequests.get? t'.id = some t' := Table.mem_iff_get?.mp ht'
      rw [hothers t'.id fun t ht hid => hmem ⟨t, ht, hid⟩] at hget
      exact .inl ⟨t', Table.get?_mem hget, rfl, rfl, rfl, hopen'⟩
  | @file _ t u he hfresh hopen hinsert =>
    have hfresh' : db.supportRequests.get? { t with createdAt := u, updatedAt := u, filedAt := u }.id = none :=
      hfresh
    rw [hinsert] at ht'
    rcases (Table.mem_insert hfresh').mp ht' with ht' | rfl
    · exact .inl ⟨t', ht', rfl, rfl, rfl, hopen'⟩
    · exact .inr ⟨_, t, he, rfl⟩

/-- The two calls that complete a request. -/
inductive Event.Completes (db : Db) : Event → Request → Prop
  | completeReturn {ctx r next actorId} : Completes db (.service ctx (.completeReturn r.id next actorId)) r
  | markedLost {ctx r ticketId note newId next actorId ticket}
      (hticket : db.supportRequests.get? ticketId = some ticket) (htied : ticket.requestId = some r.id) :
    Completes db (.service ctx (.resolve ticketId .markedLost note newId next actorId)) r

theorem Event.Rewrites.completes {r r' : Request} (h : e.Rewrites db r r') (hdone : r'.status = .completed) :
    r.status = .completed ∨ e.Completes db r := by
  cases h with
  | service h =>
    cases h with
    | completeReturn => exact .inr .completeReturn
    | markedLost hticket hopen htied => exact .inr (.markedLost hticket htied)
    | updateBookingRange | ship | confirmDelivery | swapped | approveExtension => exact .inl hdone
    | assign | reject | cancel | escalateToManager => exact absurd hdone (of_decide_eq_false rfl)
  | portal h =>
    cases h with
    | submitRequest hstatus hqueue => rcases hqueue with rfl | rfl <;> exact absurd hdone (of_decide_eq_false rfl)
    | @decideRequest _ approved => cases approved <;> exact absurd hdone (of_decide_eq_false rfl)
    | initiateReturn => exact .inl hdone

theorem Event.RequestsStep.completed (h : e.RequestsStep db db') {r' : Request} (hr' : r' ∈ db'.requests)
    (hdone : r'.status = .completed) :
    ∃ r ∈ db.requests, r.id = r'.id ∧ (r.status = .completed ∨ e.Completes db r) := by
  cases h with
  | same hsame => exact ⟨r', hsame ▸ hr', rfl, .inl hdone⟩
  | rewrite hr hw hset =>
    rw [hset] at hr'
    rcases Table.mem_set.mp hr' with ⟨rfl, -⟩ | ⟨hr', -⟩
    · exact ⟨_, Table.get?_mem hr, hw.id_eq.symm, hw.completes hdone⟩
    · exact ⟨r', hr', rfl, .inl hdone⟩
  | @create r u hfresh hc hinsert =>
    have hfresh' : db.requests.get? { r with createdAt := u, updatedAt := u }.id = none := hfresh
    rw [hinsert] at hr'
    rcases (Table.mem_insert hfresh').mp hr' with hr' | rfl
    · exact ⟨r', hr', rfl, .inl hdone⟩
    · cases hc with
      | directAssign => exact absurd hdone (of_decide_eq_false rfl)
      | fileRequest hfiled =>
        have hstatus : r.status = .completed := hdone
        exact absurd (hstatus ▸ hfiled.2) (by decide)

/-! ### What the two calls close -/

theorem ShippingService.completeReturn_closes {requestId actorId : UUID} {next : DeviceStatus} {row : Request}
    (h : (completeReturn requestId next actorId).Runs ctx db row db') :
    ∃ r ∈ db.requests.get? requestId, ∃ i ∈ r.assignedItemId.bind db.items.get?,
      i.status ∈ _RETURN_ELIGIBLE_STATUSES ∧
        ∀ t ∈ db'.supportRequests, t.itemId = i.id → t.status = .resolved := by
  obtain ⟨r, hr, i, ⟨d, hd, hi⟩, hstatus, r', -, -, i', hi', -, l, -, -, l', -, -, ⟨_, hclose⟩, -⟩ :=
    runs_completeReturn.mp h
  have hid' : i'.id = i.id := hi' ▸ rfl
  obtain ⟨ts, -, hts, hclosed⟩ := cascade_of_runs hclose
  refine ⟨r, hr, i, bind_eq_some hd hi, hstatus, fun t ht hitem => ?_⟩
  have hget : db'.supportRequests.get? t.id = some t := Table.mem_iff_get?.mp ht
  by_cases hmem : ∃ x ∈ ts, x.id = t.id
  · obtain ⟨x, hx, hid⟩ := hmem
    obtain ⟨now, u, hrow⟩ := hclosed.closed x hx
    obtain rfl := Option.some.inj ((hid ▸ hget).symm.trans hrow)
    rfl
  · by_contra hopen
    -- the cascade has not written the ticket, so it was open before and should have been in it
    rw [hclosed.others t.id fun x hx hid => hmem ⟨x, hx, hid⟩] at hget
    exact hmem ⟨t, (hts t).mpr ⟨Table.get?_mem hget, hitem.trans hid'.symm, hopen⟩, rfl⟩

theorem SupportService.resolve_closes {ticketId actorId : UUID} {resolution : SupportResolution}
    {note : Option String} {newId : Option UUID} {next : Option DeviceStatus} {row : SupportRequest}
    (h : (resolve ticketId resolution note newId next actorId).Runs ctx db row db') :
    ∃ t ∈ db.supportRequests.get? ticketId, t.status ≠ .resolved ∧ db.items.get? t.itemId ≠ none ∧
      ∀ t' ∈ db'.supportRequests, t'.id = t.id → t'.status = .resolved := by
  obtain ⟨t, ht, hopen, i, hi, _, db₁, -, t₁, ht₁, -, -, -, rfl⟩ := runs_resolve.mp h
  refine ⟨t, ht, hopen, hi ▸ Option.some_ne_none i, fun t' ht' hid => ?_⟩
  rcases Table.mem_set.mp ht' with ⟨rfl, -⟩ | ⟨-, hne⟩
  · exact ht₁ ▸ rfl
  · exact absurd (hid.trans (show t.id = t₁.id from ht₁ ▸ rfl)) hne

/-! ### One event -/

theorem Db.NoDangling.step (h : db.NoDangling) (hok : e.ClosesTickets db) (hcommits : e.Commits db db') :
    db'.NoDangling := by
  intro t' ht' r' hr' htied hdone
  by_contra hopen'
  obtain ⟨r, hr, hrid, hcompleted⟩ := hcommits.effects.requests.completed hr' hdone
  have hr₁ : db.requests.get? r.id = some r := Table.mem_iff_get?.mp hr
  rcases hcommits.effects.tickets.unresolved ht' hopen' with
    ⟨t, ht, hid, hrequest, hitem, hopen⟩ | ⟨_, t, rfl, hrequest⟩
  · have htied₁ : t.requestId = some r.id := hrequest.trans (htied.trans (congrArg some hrid.symm))
    rcases hcompleted with hcompleted | hcompleted
    · exact hopen (h t ht r hr htied₁ hcompleted)
    · cases hcompleted with
      | completeReturn =>
        cases hcommits with
        | service hruns =>
          obtain ⟨row, hruns⟩ := runs_discard.mp hruns
          obtain ⟨q, hq, i, hi, hstatus, hclosed⟩ := ShippingService.completeReturn_closes hruns
          obtain rfl := Option.some.inj (hr₁.symm.trans hq)
          exact hopen' (hclosed t' ht' (hitem.symm.trans (hok r hr₁ i hi hstatus t ht hopen htied₁)))
      | @markedLost _ _ ticketId _ _ _ _ x hx hxtied =>
        cases hcommits with
        | service hruns =>
          obtain ⟨row, hruns⟩ := runs_discard.mp hruns
          obtain ⟨y, hy, hyopen, hitem', hclosed⟩ := SupportService.resolve_closes hruns
          obtain rfl := Option.some.inj (hx.symm.trans hy)
          refine hok x hx hyopen r (bind_eq_some hxtied hr₁) hitem' ⟨t, ht, fun hsame => ?_, hopen, ?_⟩
          · exact hopen' (hclosed t' ht' (hid.symm.trans hsame))
          · exact htied₁.trans hxtied.symm
  · obtain ⟨q, hq, hqid, -, hassigned⟩ := hok
    have hrq : r.id = q.id :=
      Option.some.inj ((congrArg some hrid).trans (htied.symm.trans (hrequest.symm.trans hqid)))
    obtain rfl : r = q := Option.some.inj (hr₁.symm.trans (hrq ▸ Table.mem_iff_get?.mp hq))
    rcases hcompleted with hcompleted | hcompleted
    · exact absurd (hassigned.symm.trans hcompleted) (by decide)
    · nomatch hcompleted

/-! ### Runs -/

/-- **A completed request leaves no open ticket**, in every state of a run that completes requests only
with all their tickets. -/
theorem noDangling_of_run (h : db.NoDangling) (run : Run Step (fun db e => e.ClosesTickets db) db db') :
    db'.NoDangling := by
  refine run.inv (P := Db.NoDangling) (fun s e s' hs hok hstep => ?_) h
  rcases hstep.cases with rfl | hcommits
  · exact hs
  · exact hs.step hok hcommits

/-- Laptop 2 is returned, and its ticket closed. -/
theorem noDangling_of_run_return : (Sample.after [Sample.call (.completeReturn 2 .available 9)]).NoDangling := by
  have hcloses : (Op.completeReturn 2 .available 9).ClosesTickets Sample.store := by
    intro r hr i hi _
    obtain rfl := Option.some.inj hr
    obtain rfl := Option.some.inj hi
    decide
  exact noDangling_of_run (by decide) (.step .refl (Sample.call (.completeReturn 2 .available 9)) hcloses rfl)

/-- Employee 2 files a second ticket about laptop 2, and the first one is resolved as a loss: the request
is completed and its second ticket stays open. -/
theorem markedLost_dangling :
    Sample.store.NoDangling ∧ Sample.store.AboutBooking (Sample.ticket 2 2 2 2 .lost) ∧
      (Op.resolve 1 .markedLost none none none 9).Admitted ∧
      ¬ (Sample.after [.portal Sample.ctx (.fileTicket (Sample.ticket 2 2 2 2 .lost)),
        Sample.call (.resolve 1 .markedLost none none none 9)]).NoDangling := by
  decide

end AssetPilot
