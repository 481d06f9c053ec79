import AssetPilot.Invariants.Ownership

/-!
# Inactive users hold nothing

`deactivate` checks that the user owns no device and has no open request. Afterwards only `_swap` gives a
device to a requester without looking at `is_active` or at the status of the request.
-/

namespace AssetPilot

open Relational Custody System Txn

variable {db db' : Db} {a : CustodyAct}

/-- An inactive user owns no device and has no open request. -/
def Db.InactiveHoldNothing (db : Db) : Prop :=
  ∀ u ∈ db.users.rows, u.isActive = false →
    (∀ i ∈ db.items.rows, i.currentOwnerId ≠ some u.id) ∧
      ∀ r ∈ db.requests.rows, r.requesterId = u.id → r.status ∈ _TERMINAL_STATUSES

instance (db : Db) : Decidable db.InactiveHoldNothing :=
  inferInstanceAs (Decidable (∀ u ∈ _, _ → _ ∧ _))

theorem inactiveHoldNothing_iff : db.InactiveHoldNothing ↔ ActiveOnly db.custody := by
  have hclear : ∀ v, db.custody.Clear v ↔ (∀ i ∈ db.items.rows, i.currentOwnerId ≠ some v) ∧
      ∀ r ∈ db.requests.rows, r.requesterId = v → r.status ∈ _TERMINAL_STATUSES := by
    intro v
    unfold State.Clear
    rw [Db.forall_device, Db.forall_claim]
    simp only [mem_TERMINAL_STATUSES]
    exact Iff.rfl
  have hactive : ActiveOnly db.custody ↔
      ∀ v b, db.custody.active v = some b → b = false → db.custody.Clear v :=
    ⟨fun h v b hb hf => h v (hf ▸ hb), fun h v hv => h v false hv rfl⟩
  rw [hactive, Db.forall_active]
  simp only [hclear]
  exact Iff.rfl

/-- The swap gives the device to nobody inactive. -/
def Op.KeepsActiveOnly (db : Db) : Op → Prop
  | .resolve ticketId .swapped _ swappedToItemId _ _ =>
      ∀ t ∈ db.supportRequests.get? ticketId, t.status ≠ .resolved →
        ∀ i ∈ db.items.get? t.itemId, ∀ n ∈ swappedToItemId.bind db.items.get?, SwapTarget i n →
          ∀ r ∈ db.tiedRequest t, ∀ u ∈ db.users.get? r.requesterId, u.isActive = true
  | _ => True

/-- The same, with the assumption that employees file requests while they are active. -/
def Event.KeepsActiveOnly (db : Db) : Event → Prop
  | .service _ op => op.KeepsActiveOnly db
  | .portal _ (.fileRequest request) => ∀ u ∈ db.users.get? request.requesterId, u.isActive = true
  | .portal _ _ => True

theorem not_inactive {v : UUID} (h : ∀ u ∈ db.users.get? v, u.isActive = true) :
    db.custody.active v ≠ some false := by
  intro hv
  obtain ⟨u, hu, hf⟩ := Option.map_eq_some_iff.mp hv
  exact nomatch (h u hu).symm.trans hf

theorem Event.KeepsActiveOnly.keepsActiveOnly {e : Event} (h : e.KeepsActiveOnly db)
    (ha : e.Performs db a) : a.KeepsActiveOnly db.custody := by
  cases ha with
  | service ha =>
    cases ha with
    | swapped ht hopen hi hn htarget hq hr =>
      intro x hx
      obtain rfl := Option.some.inj ((Db.custody_claim hr).symm.trans hx)
      exact not_inactive (h _ ht hopen _ hi _ hn htarget _ (bind_eq_some hq hr))
    | _ => trivial
  | portal ha =>
    cases ha with
    | fileRequest => exact not_inactive h
    | _ => trivial

/-- **Inactive users hold nothing**, in every state of a run that swaps no device to an inactive
requester. -/
theorem inactiveHoldNothing_of_run (hint : db.Integral) (h : db.InactiveHoldNothing)
    (run : Run Step (fun db e => e.KeepsActiveOnly db) db db') : db'.InactiveHoldNothing := by
  refine inactiveHoldNothing_iff.mpr (law_of_run ?_ run hint.sound (inactiveHoldNothing_iff.mp h)).2
  intro db e a c _ hactive hok hperforms hstep
  exact hactive.step hstep (hok.keepsActiveOnly hperforms)

/-- Employee 2, who is active, gets laptop 1 for laptop 2. -/
theorem inactiveHoldNothing_of_run_swap :
    (Sample.after [Sample.call (.resolve 1 .swapped none (some 1) (some .underRepair) 9)]
      ).InactiveHoldNothing :=
  inactiveHoldNothing_of_run (by decide : Sample.store.Integral) (by decide)
    (.step .refl (Sample.call (.resolve 1 .swapped none (some 1) (some .underRepair) 9))
      (fun t ht _ _ _ _ _ _ r hr u hu => by
        obtain rfl : Sample.ticket 1 2 2 2 .damage = t := Option.some.inj ht
        obtain rfl : Sample.request 2 2 .assigned (some 2) = r := Option.some.inj hr
        obtain rfl : Sample.employee 2 "two@example.com" = u := Option.some.inj hu
        rfl) rfl)

/-- Employee 2 has two open tickets about laptop 2. One is resolved by a swap, the new laptop comes back,
employee 2 is deactivated, and the other ticket is resolved by a swap. -/
def Sample.swapAfterDeactivate : List Event :=
  [.portal ctx (.fileTicket (ticket 2 2 2 2 .damage)),
    call (.resolve 1 .swapped none (some 1) (some .underRepair) 9),
    call (.completeReturn 2 .available 9),
    call (.deactivate 2),
    call (.resolve 2 .swapped none (some 1) (some .underRepair) 9)]

theorem swap_breaks_inactiveHoldNothing :
    Sample.store.Integral ∧ Sample.store.InactiveHoldNothing ∧
      (∀ e ∈ Sample.swapAfterDeactivate, e.Admitted) ∧
      ¬ (Sample.after Sample.swapAfterDeactivate).InactiveHoldNothing := by
  decide

end AssetPilot
