import AssetPilot.Invariants.Ownership

/-!
# A ticket is resolved on the assignment it is about

A ticket keeps the item and the request it was filed with, while swaps, returns and cancellations move the
two apart. `_swap`, `_mark_lost` and `_repair_in_place` do not compare them with the request again: they
act on the right assignment as long as nothing was moved from under an open ticket.
-/

namespace AssetPilot

open Relational Custody System Txn

variable {db db' : Db} {e : Event} {a : CustodyAct}

/-- The ticket is about the booked device of the request it is tied to. -/
def Db.AboutBooking (db : Db) (t : SupportRequest) : Prop :=
  ∃ r ∈ db.requests.rows, t.requestId = some r.id ∧ r.IsBookingFor t.itemId

instance (db : Db) (t : SupportRequest) : Decidable (db.AboutBooking t) :=
  inferInstanceAs (Decidable (∃ r ∈ _, _))

/-- Open tickets are about bookings, and booked devices have owners. -/
structure Db.TicketsLive (db : Db) : Prop where
  tied : ∀ t ∈ db.supportRequests.rows, t.status ≠ .resolved → db.AboutBooking t
  owned : ∀ r ∈ db.requests.rows, ∀ i ∈ db.items.rows, r.IsBookingFor i.id → i.currentOwnerId ≠ none

instance (db : Db) : Decidable db.TicketsLive :=
  decidable_of_iff ((∀ t ∈ db.supportRequests.rows, t.status ≠ .resolved → db.AboutBooking t) ∧
    ∀ r ∈ db.requests.rows, ∀ i ∈ db.items.rows, r.IsBookingFor i.id → i.currentOwnerId ≠ none)
    ⟨fun ⟨h₁, h₂⟩ => ⟨h₁, h₂⟩, fun h => ⟨h.tied, h.owned⟩⟩

theorem SupportRequest.ticket_resolved {t : SupportRequest} :
    t.ticket.resolved = false ↔ t.status ≠ .resolved := by
  simp [SupportRequest.ticket]

theorem Db.AboutBooking.claim {t : SupportRequest} (h : db.AboutBooking t) :
    ∃ q x, t.requestId = some q ∧ db.custody.claim q = some x ∧ x.status = .assigned ∧
      x.device = some t.itemId := by
  obtain ⟨r, hr, hq, hd, hs⟩ := h
  exact ⟨r.id, r.claim, hq, custody_claim (Table.mem_iff_get?.mp hr), hs, hd⟩

theorem Db.TicketsLive.live (h : db.TicketsLive) (hint : db.Integral) : Live db.custody where
  tied {p z} hp hz := by
    obtain ⟨t, ht, rfl⟩ := custody_ticket_eq_some.mp hp
    exact (h.tied t (Table.get?_mem ht) (SupportRequest.ticket_resolved.mp hz)).claim
  owned {q x d} hq hs hd := by
    obtain ⟨r, hr, rfl⟩ := custody_claim_eq_some.mp hq
    obtain ⟨y, hy⟩ := Option.ne_none_iff_exists'.mp (hint.sound.known hq hd)
    obtain ⟨i, hi, rfl⟩ := custody_device_eq_some.mp hy
    obtain rfl : i.id = d := Table.get?_key hi
    exact ⟨i.custody, hy, h.owned r (Table.get?_mem hr) i (Table.get?_mem hi) ⟨hd, hs⟩⟩

/-- Another open ticket is tied to the same request as `t`. -/
def Db.SharesRequest (db : Db) (t : SupportRequest) : Prop :=
  ∃ s ∈ db.supportRequests.rows, s.id ≠ t.id ∧ s.status ≠ .resolved ∧ s.requestId = t.requestId

instance (db : Db) (t : SupportRequest) : Decidable (db.SharesRequest t) :=
  inferInstanceAs (Decidable (∃ s ∈ _, _))

/-- The call moves nothing from under an open ticket: `cancel` ends a request with no open ticket,
`complete_return` on an ended request frees no device of another, and a swap or a loss acts on a request
that no other open ticket is tied to. -/
def Op.KeepsLive (db : Db) : Op → Prop
  | .cancel requestId _ _ => ∀ t ∈ db.supportRequests.rows, t.status ≠ .resolved →
      t.requestId ≠ some requestId
  | .completeReturn requestId _ _ => ∀ r ∈ db.requests.get? requestId, r.status ∈ _TERMINAL_STATUSES →
      ∀ i ∈ r.assignedItemId.bind db.items.get?, i.status ∈ ShippingService._RETURN_ELIGIBLE_STATUSES →
        ∀ q ∈ db.requests.rows, ¬ q.IsBookingFor i.id
  | .resolve ticketId .swapped _ swappedToItemId _ _ =>
      ∀ t ∈ db.supportRequests.get? ticketId, t.status ≠ .resolved →
        ∀ i ∈ db.items.get? t.itemId, ∀ n ∈ swappedToItemId.bind db.items.get?, SwapTarget i n →
          ¬ db.SharesRequest t
  | .resolve ticketId .markedLost _ _ _ _ =>
      ∀ t ∈ db.supportRequests.get? ticketId, t.status ≠ .resolved → ¬ db.SharesRequest t
  | _ => True

/-- The same, with the assumption on the employees' side: a ticket is filed on the device of an assigned
request, and tied to that request. -/
def Event.KeepsLive (db : Db) : Event → Prop
  | .service _ op => op.KeepsLive db
  | .portal _ (.fileTicket ticket) => db.AboutBooking ticket
  | .portal _ _ => True

theorem Event.KeepsLive.ticketsTied (h : e.KeepsLive db) : TicketsTied db e := by
  cases e with
  | service => trivial
  | portal ctx step =>
    cases step with
    | fileTicket t =>
      obtain ⟨r, hr, hq, hd, -⟩ := h
      exact .inr ⟨r, hr, hq, hd ▸ Option.some_ne_none _⟩
    | _ => trivial

theorem waitsOn_sharesRequest {t : SupportRequest} {p q : UUID} (ht : db.supportRequests.get? p = some t)
    (hq : t.requestId = some q) (h : db.custody.WaitsOn (some p) q) : db.SharesRequest t := by
  obtain ⟨o, z, hne, ho, hz, hzq⟩ := h
  obtain ⟨s, hs, rfl⟩ := Db.custody_ticket_eq_some.mp ho
  have hsid : s.id = o := Table.get?_key hs
  have htid : t.id = p := Table.get?_key ht
  refine ⟨s, Table.get?_mem hs, fun he => hne ?_, SupportRequest.ticket_resolved.mp hz, ?_⟩
  · rw [← hsid, ← htid, he]
  · exact hzq.trans hq.symm

theorem Event.KeepsLive.keepsLive (h : e.KeepsLive db) (ha : e.Performs db a) :
    a.KeepsLive db.custody := by
  cases ha with
  | service ha =>
    cases ha with
    | reject hr hstatus =>
      intro x hx hassigned
      exact absurd hassigned (Db.claim_not_assigned hr hstatus (by decide) hx)
    | escalateToManager hr hstatus =>
      intro x hx hassigned
      exact absurd hassigned (Db.claim_not_assigned hr hstatus (by decide) hx)
    | cancel hr =>
      rintro x - - ⟨p, z, -, hp, hz, hzq⟩
      obtain ⟨t, ht, rfl⟩ := Db.custody_ticket_eq_some.mp hp
      exact h t (Table.get?_mem ht) (SupportRequest.ticket_resolved.mp hz) hzq
    | completeReturn hr hd hi hstatus =>
      intro x hx hended u hholds
      obtain rfl := Option.some.inj ((Db.custody_claim hr).symm.trans hx)
      obtain ⟨q, hq, hb, -⟩ := Db.custody_holds.mp hholds
      refine h _ hr (mem_TERMINAL_STATUSES.mpr hended) _ (bind_eq_some hd hi) hstatus q hq ?_
      rwa [show Item.id _ = _ from Table.get?_key hi]
    | swapped ht hopen hi hn htarget hq hr =>
      exact fun hwait => h _ ht hopen _ hi _ hn htarget (waitsOn_sharesRequest ht hq hwait)
    | markedLost ht hopen hq hr =>
      exact fun hwait => h _ ht hopen (waitsOn_sharesRequest ht hq hwait)
    | _ => trivial
  | portal ha =>
    cases ha with
    | submitRequest hr hstatus =>
      intro x hx hassigned
      exact absurd hassigned (Db.claim_not_assigned hr hstatus (by decide) hx)
    | decideRequest hr hstatus =>
      intro x hx hassigned
      exact absurd hassigned (Db.claim_not_assigned hr hstatus (by decide) hx)
    | fileTicket => exact h.claim
    | _ => trivial

theorem live_of_run (h : db.Settled) (hlive : db.TicketsLive)
    (run : Run Step (fun db e => e.KeepsLive db) db db') : Live db'.custody := by
  have hsound := h.integral.sound
  have key : Sound db'.custody ∧ Carried db'.custody ∧ Live db'.custody := by
    refine @law_of_run db db' (fun c => Carried c ∧ Live c) _ ?_ run hsound
      ⟨h.carried, hlive.live h.integral⟩
    intro db e a c hsound hlaw hok hperforms hstep
    exact ⟨hlaw.1.step hstep (hok.ticketsTied.ties hperforms),
      hlaw.2.step hstep hsound hlaw.1 (hok.keepsLive hperforms)⟩
  exact key.2.2

/-! ### Resolving -/

/-- The assignment that a resolution is about: a swap or a loss is for the booking of the ticket's device,
a repair in place for a booked device with an owner. -/
def Db.ResolutionFits (db : Db) (ticketId : UUID) : SupportResolution → Prop
  | .swapped | .markedLost => ∃ t ∈ db.supportRequests.get? ticketId, ∃ r ∈ db.tiedRequest t,
      r.IsBookingFor t.itemId
  | .repairedInPlace => ∃ t ∈ db.supportRequests.get? ticketId,
      (∃ i ∈ db.items.get? t.itemId, i.currentOwnerId ≠ none) ∧
        ∃ r ∈ db.requests.rows, r.IsBookingFor t.itemId
  | .remoteResolved => True

theorem resolutionFits_of_live {ctx : Ctx} {ticketId actorId : UUID} {resolution : SupportResolution}
    {note : Option String} {newId : Option UUID} {next : Option DeviceStatus} {row : SupportRequest}
    (hlive : Live db.custody)
    (h : (SupportService.resolve ticketId resolution note newId next actorId).Runs ctx db row db') :
    db.ResolutionFits ticketId resolution := by
  obtain ⟨t, ht, hopen, i, hi, -⟩ := SupportService.runs_resolve.mp h
  obtain ⟨q, x, hq, hx, hs, hd⟩ :=
    hlive.tied (Db.custody_ticket ht) (SupportRequest.ticket_resolved.mpr hopen)
  obtain ⟨y, hy, howner⟩ := hlive.owned hx hs hd
  obtain ⟨r, hr, rfl⟩ := Db.custody_claim_eq_some.mp hx
  obtain rfl := Option.some.inj ((Db.custody_device hi).symm.trans hy)
  have hfits : ∃ r ∈ db.tiedRequest t, r.IsBookingFor t.itemId := ⟨r, bind_eq_some hq hr, hd, hs⟩
  cases resolution with
  | remoteResolved => trivial
  | repairedInPlace => exact ⟨t, ht, ⟨i, hi, howner⟩, r, Table.get?_mem hr, hd, hs⟩
  | swapped => exact ⟨t, ht, hfits⟩
  | markedLost => exact ⟨t, ht, hfits⟩

/-- **A ticket is resolved on the assignment it is about**, in every state of a run that moves nothing
from under an open ticket. -/
theorem resolutionFits_of_run (h : db.Settled) (hlive : db.TicketsLive)
    (run : Run Step (fun db e => e.KeepsLive db) db db') :
    ∀ ctx ticketId resolution note newId next actorId row db'',
      (SupportService.resolve ticketId resolution note newId next actorId).Runs ctx db' row db'' →
        db'.ResolutionFits ticketId resolution :=
  fun _ _ _ _ _ _ _ _ _ hruns => resolutionFits_of_live (live_of_run h hlive run) hruns

/-- Laptop 1 is handed out, and then laptop 2 is reported lost. -/
theorem resolutionFits_of_run_assign :
    (Sample.after [Sample.call (.assign 1 1 0 10 false 9)]).ResolutionFits 1 .markedLost :=
  resolutionFits_of_run (by decide : Sample.store.Settled) (by decide)
    (.step .refl (Sample.call (.assign 1 1 0 10 false 9)) trivial rfl)
    Sample.ctx 1 .markedLost none none none 9 _ _ rfl

/-- A second ticket about laptop 2, and the first one is resolved by a swap to laptop 1. -/
def Sample.swapWithTwoTickets : List Event :=
  [.portal ctx (.fileTicket (ticket 2 2 2 2 .lost)),
    call (.resolve 1 .swapped none (some 1) (some .underRepair) 9)]

/-- The second ticket then completes the request, which has laptop 1 by now. -/
theorem markedLost_not_resolutionFits :
    Sample.store.Settled ∧ Sample.store.TicketsLive ∧ Sample.store.AboutBooking (Sample.ticket 2 2 2 2 .lost) ∧
      (∃ row db', (SupportService.resolve 2 .markedLost none none none 9).Runs Sample.ctx
        (Sample.after Sample.swapWithTwoTickets) row db') ∧
      ¬ (Sample.after Sample.swapWithTwoTickets).ResolutionFits 2 .markedLost := by
  refine ⟨by decide, by decide, by decide, ⟨_, _, rfl⟩, ?_⟩
  rintro ⟨t, ht, r, hr, hb⟩
  obtain rfl : { Sample.ticket 2 2 2 2 .lost with createdAt := 5, updatedAt := 5, filedAt := 5 } = t :=
    Option.some.inj ht
  obtain rfl : { Sample.request 2 2 .assigned (some 1) with updatedAt := 5 } = r := Option.some.inj hr
  revert hb
  decide

end AssetPilot
