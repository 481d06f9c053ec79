import AssetPilot.Invariants.Store

/-!
# Ownership agrees with assignment, and the pool is free

Two laws about the denormalised columns `item.status` and `item.current_owner_id`. The services write
them beside `request.status` and `request.assigned_item_id` in separate statements; a few branches write
one side without the other. Each law is an invariant of the runs that do not take these branches, and the
worked calls at the end of each section take one.
-/

namespace AssetPilot

open Relational Custody System Txn

variable {db db' : Db} {e : Event} {a : CustodyAct}

/-- The payload of the event passes its schema. -/
def Event.Admitted : Event → Prop
  | .service _ op => op.Admitted
  | .portal _ _ => True

instance (e : Event) : Decidable e.Admitted :=
  match e with
  | .service _ op => inferInstanceAs (Decidable op.Admitted)
  | .portal _ _ => isTrue trivial

/-- The request that a ticket is tied to. -/
def Db.tiedRequest (db : Db) (t : SupportRequest) : Option Request := t.requestId.bind db.requests.get?

/-! ### Ownership -/

/-- The owner of a device is the requester of the booking on it, and a held device has an owner. -/
structure Db.OwnershipAgrees (db : Db) : Prop where
  owner : ∀ i ∈ db.items.rows, ∀ u, i.currentOwnerId = some u ↔
    ∃ r ∈ db.requests.rows, r.IsBookingFor i.id ∧ r.requesterId = u
  held : ∀ i ∈ db.items.rows, Held i.status → i.currentOwnerId ≠ none

theorem ownershipAgrees_iff : db.OwnershipAgrees ↔ Agrees db.custody := by
  have howner : (∀ d y, db.custody.device d = some y → ∀ u, y.holder = some u ↔ db.custody.Holds d u) ↔
      ∀ i ∈ db.items.rows, ∀ u, i.currentOwnerId = some u ↔
        ∃ r ∈ db.requests.rows, r.IsBookingFor i.id ∧ r.requesterId = u := by
    rw [Db.forall_device]
    refine forall₂_congr fun i _ => forall_congr' fun u => ?_
    rw [Db.custody_holds]
    exact Iff.rfl
  have hheld : (∀ d y, db.custody.device d = some y → Held y.status → y.holder ≠ none) ↔
      ∀ i ∈ db.items.rows, Held i.status → i.currentOwnerId ≠ none := Db.forall_device
  constructor
  · intro h
    exact ⟨fun {d y} => howner.mpr h.owner d y, fun {d y} => hheld.mpr h.held d y⟩
  · intro h
    exact ⟨howner.mp fun _ _ => h.holder, hheld.mp fun _ _ => h.held⟩

theorem ownershipAgrees_iff_check : db.OwnershipAgrees ↔
    (∀ i ∈ db.items.rows, (i.currentOwnerId = none ∨
        ∃ r ∈ db.requests.rows, r.IsBookingFor i.id ∧ i.currentOwnerId = some r.requesterId) ∧
      (∀ r ∈ db.requests.rows, r.IsBookingFor i.id → i.currentOwnerId = some r.requesterId) ∧
      (Held i.status → i.currentOwnerId ≠ none)) := by
  constructor
  · intro h i hi
    refine ⟨?_, fun r hr hb => (h.owner i hi _).mpr ⟨r, hr, hb, rfl⟩, h.held i hi⟩
    rcases ho : i.currentOwnerId with _ | u
    · exact .inl rfl
    · obtain ⟨r, hr, hb, rfl⟩ := (h.owner i hi u).mp ho
      exact .inr ⟨r, hr, hb, rfl⟩
  · intro h
    refine ⟨fun i hi u => ⟨fun ho => ?_, ?_⟩, fun i hi => (h i hi).2.2⟩
    · rcases (h i hi).1 with hnone | ⟨r, hr, hb, hr'⟩
      · exact absurd (hnone.symm.trans ho) (Option.some_ne_none _).symm
      · exact ⟨r, hr, hb, Option.some.inj (hr'.symm.trans ho)⟩
    · rintro ⟨r, hr, hb, rfl⟩
      exact (h i hi).2.1 r hr hb

instance (db : Db) : Decidable db.OwnershipAgrees := decidable_of_iff _ ownershipAgrees_iff_check.symm

/-- The request has a booked device. -/
def Request.HasBooking (r : Request) : Prop := r.status = .assigned ∧ r.assignedItemId ≠ none

instance (r : Request) : Decidable r.HasBooking := inferInstanceAs (Decidable (_ ∧ _))

/-- The call does not take a branch that writes one side of an assignment without the other: `cancel`
and `_mark_lost` leave a booked device with its owner, `complete_return` on a request that is not
assigned frees the device of another, `_repair_in_place` makes an unowned device assigned, and `_swap`
moves a request that is not the booking of the ticket's device, or leaves the old device in a held
status. -/
def Op.KeepsOwnership (db : Db) : Op → Prop
  | .cancel requestId _ _ => ∀ r ∈ db.requests.get? requestId, ¬ r.HasBooking
  | .completeReturn requestId _ _ => ∀ r ∈ db.requests.get? requestId,
      ∀ i ∈ r.assignedItemId.bind db.items.get?, i.status ∈ ShippingService._RETURN_ELIGIBLE_STATUSES →
        r.status = .assigned
  | .resolve ticketId .repairedInPlace _ _ _ _ => ∀ t ∈ db.supportRequests.get? ticketId,
      t.status ≠ .resolved → ∀ i ∈ db.items.get? t.itemId, i.status = .underRepair →
        i.currentOwnerId ≠ none
  | .resolve ticketId .swapped _ swappedToItemId oldItemNextStatus _ =>
      ∀ t ∈ db.supportRequests.get? ticketId, t.status ≠ .resolved →
        ∀ i ∈ db.items.get? t.itemId, ∀ n ∈ swappedToItemId.bind db.items.get?, SwapTarget i n →
          ∀ r ∈ db.tiedRequest t, r.IsBookingFor t.itemId ∧ ∀ s ∈ oldItemNextStatus, ¬ Held s
  | .resolve ticketId .markedLost _ _ _ _ => ∀ t ∈ db.supportRequests.get? ticketId,
      t.status ≠ .resolved → ∀ r ∈ db.tiedRequest t, ¬ r.HasBooking
  | _ => True

def Event.KeepsOwnership (db : Db) : Event → Prop
  | .service _ op => op.Admitted ∧ op.KeepsOwnership db
  | .portal _ _ => True

theorem Op.KeepsOwnership.keepsAgreement {ctx : Ctx} {op : Op} (hadmitted : op.Admitted)
    (h : op.KeepsOwnership db) (ha : op.Performs ctx db a) : a.KeepsAgreement db.custody := by
  cases ha with
  | changeStatus =>
    intro hheld
    revert hadmitted hheld
    simp only [Op.Admitted, ChangeItemStatusRequest, _CHANGEABLE_STATUSES, Held]
    grind
  | reject hr hstatus =>
    intro x hx hassigned
    exact absurd hassigned (Db.claim_not_assigned hr hstatus (by decide) hx)
  | escalateToManager hr hstatus =>
    intro x hx hassigned
    exact absurd hassigned (Db.claim_not_assigned hr hstatus (by decide) hx)
  | cancel hr =>
    intro x hx hassigned
    obtain rfl := Option.some.inj ((Db.custody_claim hr).symm.trans hx)
    by_contra hdevice
    exact h _ hr ⟨hassigned, hdevice⟩
  | ship hr hd hi hstatus => exact fun _ => .inl hstatus
  | confirmDelivery hr hd hi hstatus => exact fun _ => .inr (.inl hstatus)
  | completeReturn hr hd hi hstatus =>
    refine ⟨fun x hx => ?_, ?_⟩
    · obtain rfl := Option.some.inj ((Db.custody_claim hr).symm.trans hx)
      exact h _ hr _ (bind_eq_some hd hi) hstatus
    · revert hadmitted
      simp only [Op.Admitted, CompleteReturnRequest, _ALLOWED_NEXT_STATUSES, Held]
      grind
  | startRepair => exact fun hheld => absurd hheld (by decide)
  | repairedInPlace ht hopen hi hstatus =>
    intro y hy
    obtain rfl := Option.some.inj ((Db.custody_device hi).symm.trans hy)
    exact h _ ht hopen _ hi hstatus
  | swapped ht hopen hi hn htarget hq hr =>
    obtain ⟨hbooking, hnext⟩ := h _ ht hopen _ hi _ hn htarget _ (bind_eq_some hq hr)
    refine ⟨fun x hx => ?_, hnext _ rfl⟩
    obtain rfl := Option.some.inj ((Db.custody_claim hr).symm.trans hx)
    exact hbooking.symm
  | markedLost ht hopen hq hr =>
    intro x hx hassigned
    obtain rfl := Option.some.inj ((Db.custody_claim hr).symm.trans hx)
    by_contra hdevice
    exact h _ ht hopen _ (bind_eq_some hq hr) ⟨hassigned, hdevice⟩
  | _ => trivial

theorem PortalStep.keepsAgreement {step : PortalStep} (ha : step.Performs db a) :
    a.KeepsAgreement db.custody := by
  cases ha with
  | submitRequest hr hstatus =>
    intro x hx hassigned
    exact absurd hassigned (Db.claim_not_assigned hr hstatus (by decide) hx)
  | decideRequest hr hstatus =>
    intro x hx hassigned
    exact absurd hassigned (Db.claim_not_assigned hr hstatus (by decide) hx)
  | initiateReturn hr hd hi hstatus => exact fun _ => .inl hstatus
  | _ => trivial

/-- **Ownership agrees with assignment**, in every state of a run that takes none of the one-sided
branches. -/
theorem ownershipAgrees_of_run (hint : db.Integral) (h : db.OwnershipAgrees)
    (run : Run Step (fun db e => e.KeepsOwnership db) db db') : db'.OwnershipAgrees := by
  refine ownershipAgrees_iff.mpr (law_of_run ?_ run hint.sound (ownershipAgrees_iff.mp h)).2
  intro db e a c hsound hagrees hok hperforms hstep
  refine hagrees.step hstep hsound ?_
  cases hperforms with
  | service ha => exact hok.2.keepsAgreement hok.1 ha
  | portal ha => exact PortalStep.keepsAgreement ha

/-- Laptop 1 is handed out, and laptop 2 comes back. -/
theorem ownershipAgrees_of_run_return :
    ((Sample.call (.completeReturn 2 .available 9)).exec
      ((Sample.call (.assign 1 1 0 10 false 9)).exec Sample.store)).OwnershipAgrees :=
  ownershipAgrees_of_run (by decide) (by decide)
    (.step (.step .refl (Sample.call (.assign 1 1 0 10 false 9)) ⟨by decide, trivial⟩ rfl)
      (Sample.call (.completeReturn 2 .available 9))
      ⟨by decide, fun r hr _ _ _ => by
        obtain rfl : Sample.request 2 2 .assigned (some 2) = r := Option.some.inj hr
        rfl⟩ rfl)

/-- Cancelling the booking of laptop 2 leaves its owner. -/
theorem cancel_breaks_ownership :
    Sample.store.Integral ∧ Sample.store.OwnershipAgrees ∧
      (Sample.call (.cancel 2 "left" 9)).Admitted ∧
      ¬ ((Sample.call (.cancel 2 "left" 9)).exec Sample.store).OwnershipAgrees := by
  decide

/-! ### The pool -/

/-- An available device has no owner and no booking. -/
def Db.PoolFree (db : Db) : Prop :=
  ∀ i ∈ db.items.rows, i.status = .available →
    i.currentOwnerId = none ∧ ∀ r ∈ db.requests.rows, ¬ r.IsBookingFor i.id

instance (db : Db) : Decidable db.PoolFree := inferInstanceAs (Decidable (∀ i ∈ _, _ → _ ∧ _))

theorem poolFree_iff : db.PoolFree ↔ Pool db.custody := by
  unfold Db.PoolFree Pool
  rw [Db.forall_device]
  refine forall₂_congr fun i _ => imp_congr_right fun _ => and_congr_right fun _ => ?_
  simp only [Db.custody_holds, not_exists, not_and]
  constructor
  · exact fun h u r hr hb _ => h r hr hb
  · exact fun h r hr hb => h r.requesterId r hr hb rfl

/-- The call does not make a device available that somebody else has: the manual override asks for
neither owner nor booking, `complete_return` and `_swap` only know the request they were called for. -/
def Op.KeepsPool (db : Db) : Op → Prop
  | .changeStatus itemId .available _ _ => ∀ i ∈ db.items.get? itemId,
      i.currentOwnerId = none ∧ ∀ r ∈ db.requests.rows, ¬ r.IsBookingFor itemId
  | .completeReturn requestId .available _ => ∀ r ∈ db.requests.get? requestId,
      ∀ i ∈ r.assignedItemId.bind db.items.get?, i.status ∈ ShippingService._RETURN_ELIGIBLE_STATUSES →
        ∀ q ∈ db.requests.rows, q.id ≠ requestId → ¬ q.IsBookingFor i.id
  | .resolve ticketId .swapped _ swappedToItemId (some .available) _ =>
      ∀ t ∈ db.supportRequests.get? ticketId, t.status ≠ .resolved →
        ∀ i ∈ db.items.get? t.itemId, ∀ n ∈ swappedToItemId.bind db.items.get?, SwapTarget i n →
          ∀ q ∈ db.requests.rows, t.requestId ≠ some q.id → ¬ q.IsBookingFor t.itemId
  | _ => True

def Event.KeepsPool (db : Db) : Event → Prop
  | .service _ op => op.KeepsPool db
  | .portal _ _ => True

theorem Op.KeepsPool.keepsPool {ctx : Ctx} {op : Op} (h : op.KeepsPool db)
    (ha : op.Performs ctx db a) : a.KeepsPool db.custody := by
  cases ha with
  | changeStatus hi =>
    rintro rfl
    obtain ⟨howner, hbookings⟩ := h _ hi
    refine ⟨fun y hy => ?_, fun u hholds => ?_⟩
    · obtain rfl := Option.some.inj ((Db.custody_device hi).symm.trans hy)
      exact howner
    · obtain ⟨r, hr, hb, -⟩ := Db.custody_holds.mp hholds
      exact hbookings r hr hb
  | ship => exact fun he => absurd he (by decide)
  | confirmDelivery => exact fun he => absurd he (by decide)
  | startRepair => exact fun he => absurd he (by decide)
  | completeReturn hr hd hi hstatus =>
    rintro rfl u hholds
    obtain ⟨q, hq, hne, hb, -⟩ := Db.custody_holdsBeside.mp hholds
    refine h _ hr _ (bind_eq_some hd hi) hstatus q hq hne ?_
    rwa [show Item.id _ = _ from Table.get?_key hi]
  | swapped ht hopen hi hn htarget hq hr =>
    rintro rfl u hholds
    obtain ⟨q, hq', hne, hb, -⟩ := Db.custody_holdsBeside.mp hholds
    refine h _ ht hopen _ hi _ hn htarget q hq' (fun he => hne ?_) hb
    exact (Option.some.inj (hq.symm.trans he)).symm
  | _ => trivial

theorem PortalStep.keepsPool {step : PortalStep} (ha : step.Performs db a) : a.KeepsPool db.custody := by
  cases ha with
  | initiateReturn => exact fun he => absurd he (by decide)
  | _ => trivial

/-- **The pool only contains free devices**, in every state of a run that makes no device of somebody
else available. -/
theorem poolFree_of_run (hint : db.Integral) (h : db.PoolFree)
    (run : Run Step (fun db e => e.KeepsPool db) db db') : db'.PoolFree := by
  refine poolFree_iff.mpr (law_of_run ?_ run hint.sound (poolFree_iff.mp h)).2
  intro db e a c hsound hpool hok hperforms hstep
  refine hpool.step hstep hsound ?_
  cases hperforms with
  | service ha => exact hok.keepsPool ha
  | portal ha => exact PortalStep.keepsPool ha

/-- Laptop 2 comes back to the pool. -/
theorem poolFree_of_run_return :
    ((Sample.call (.completeReturn 2 .available 9)).exec Sample.store).PoolFree :=
  poolFree_of_run (by decide) (by decide)
    (.step .refl (Sample.call (.completeReturn 2 .available 9))
      (fun r hr i hi _ q hq hne => by
        obtain rfl : Sample.request 2 2 .assigned (some 2) = r := Option.some.inj hr
        obtain rfl : Sample.device 2 "S-2" .assigned (some 2) = i := Option.some.inj hi
        revert q
        decide) rfl)

/-- The manual override makes laptop 2 available while employee 2 has it. -/
theorem changeStatus_breaks_pool :
    Sample.store.Integral ∧ Sample.store.PoolFree ∧
      (Sample.call (.changeStatus 2 .available none 9)).Admitted ∧
      ¬ ((Sample.call (.changeStatus 2 .available none 9)).exec Sample.store).PoolFree := by
  decide

end AssetPilot
