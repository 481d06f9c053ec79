import AssetPilot.Custody.Returns
import AssetPilot.Effects.Items
import AssetPilot.Invariants.Coherence
import AssetPilot.Invariants.Ownership
import AssetPilot.Repositories.Listings

/-!
# The queue of returns

`list_return_shipping_queue` joins the requests with their devices and looks at the status of the device alone.
The requests of the past point at their devices still, so that the queue lists the open returns exactly while no
request but an assigned one points at a device on its way back.
-/

namespace AssetPilot

open Relational Custody System Txn ShippingService RequestRepository

variable {ctx : Ctx} {db db' : Db} {e : Event} {a : CustodyAct} {d : UUID}

/-- The device of the request is on its way back. -/
def Request.Returning (db : Db) (r : Request) : Prop :=
  ∃ i ∈ r.assignedItemId.bind db.items.get?, i.status = .returnShippingPending

instance (db : Db) (r : Request) : Decidable (r.Returning db) := inferInstanceAs (Decidable (∃ i ∈ _, _))

/-- Whatever the answer to `ORDER BY`, the queue has every request that is assigned, with its device on its way
back, once, and no other request. -/
def Db.ReturnsListed (db : Db) : Prop :=
  ∀ ctx order queue, (listReturns order).Runs ctx db queue db → ∀ r ∈ db.requests.rows,
    (queue.map ShippingQueueResult.toRequest).count r = if r.status = .assigned ∧ r.Returning db then 1 else 0

/-- Only assigned requests point at a device on its way back. -/
def Db.ReturnsOpen (db : Db) : Prop := ∀ r ∈ db.requests.rows, r.Returning db → r.status = .assigned

instance (db : Db) : Decidable db.ReturnsOpen := inferInstanceAs (Decidable (∀ r ∈ _, _ → _))

/-! ### The rows of the queue -/

theorem returnQuery_select_iff {r : Request} (hrequester : db.users.References r.requesterId) :
    (returnQuery db).select r ≠ none ↔ r.Returning db := by
  obtain ⟨u, hu⟩ := Option.ne_none_iff_exists'.mp (hrequester r.requesterId rfl)
  cases hi : r.assignedItemId.bind db.items.get? <;> simp [returnQuery, Request.Returning, hi, hu]

/-- **The queue lists the open returns** exactly when only assigned requests point at devices on their way
back. -/
theorem returnsListed_iff (h : db.Coherent) : db.ReturnsListed ↔ db.ReturnsOpen := by
  have hcount : ∀ order ctx queue, (listReturns order).Runs ctx db queue db → ∀ r ∈ db.requests.rows,
      (queue.map ShippingQueueResult.toRequest).count r = if r.Returning db then 1 else 0 := by
    intro order ctx queue hruns r hr
    have hrefers := (Request.constraints_iff.mp (h.requests r hr)).2
    rw [(runs_listReturns.mp hruns).1, List.map_map, ((order.perm _).map _).count_eq]
    exact (returnQuery db).count_main_rows hr (returnQuery_select_iff hrefers.1)
  constructor
  · intro hlisted r hr hreturning
    have hruns : (listReturns OrderBy.stable).Runs Sample.ctx db _ db := runs_listReturns.mpr ⟨rfl, rfl⟩
    have hlist := hlisted Sample.ctx OrderBy.stable _ hruns r hr
    rw [hcount _ _ _ hruns r hr, if_pos hreturning] at hlist
    by_contra hstatus
    rw [if_neg fun hopen => hstatus hopen.1] at hlist
    exact Nat.one_ne_zero hlist
  · intro hopen ctx order queue hruns r hr
    rw [hcount order ctx queue hruns r hr]
    exact if_congr (iff_and_self.mpr (hopen r hr)) rfl rfl

/-! ### In terms of custody -/

/-- The requests that point at the device are assigned. -/
def Db.AllAssigned (db : Db) (d : UUID) : Prop :=
  ∀ r ∈ db.requests.rows, r.assignedItemId = some d → r.status = .assigned

theorem Request.returning_iff {r : Request} :
    r.Returning db ↔ ∃ d, r.assignedItemId = some d ∧ db.custody.Returning d := by
  constructor
  · rintro ⟨i, hi, hstatus⟩
    obtain ⟨d, hd, hi⟩ := Option.bind_eq_some_iff.mp hi
    exact ⟨d, hd, i.custody, Db.custody_device hi, hstatus⟩
  · rintro ⟨d, hd, y, hy, hstatus⟩
    obtain ⟨i, hi, rfl⟩ := Db.custody_device_eq_some.mp hy
    exact ⟨i, bind_eq_some hd hi, hstatus⟩

theorem custody_booked : db.custody.Booked d ↔ db.AllAssigned d :=
  Db.forall_claim (P := fun _ x => x.device = some d → x.status = .assigned)

theorem custody_bookedBeside {q : UUID} : db.custody.BookedBeside q d ↔
    ∀ r ∈ db.requests.rows, r.id ≠ q → r.assignedItemId = some d → r.status = .assigned := by
  have hclaims : (∀ p x, db.custody.claim p = some x → p ≠ q → x.device = some d → x.status = .assigned) ↔ _ :=
    Db.forall_claim (P := fun p x => p ≠ q → x.device = some d → x.status = .assigned)
  exact ⟨fun h => hclaims.mp fun p x hx hne => h p x hne hx, fun h p x hne hx => hclaims.mpr h p x hx hne⟩

theorem returnsOpen_iff : db.ReturnsOpen ↔ Custody.ReturnsOpen db.custody := by
  simp only [Custody.ReturnsOpen, custody_booked, Db.ReturnsOpen, Request.returning_iff]
  constructor
  · exact fun h d hreturning r hr hd => h r hr ⟨d, hd, hreturning⟩
  · rintro h r hr ⟨d, hd, hreturning⟩
    exact h d hreturning r hr hd

/-! ### One event -/

/-- A call that gets past its guards ends no request whose device is on its way back, unless the device has arrived,
and sends no device back that a request points at which is not assigned. -/
def Op.KeepsReturns (db : Db) : Op → Prop
  | .cancel requestId _ _ => ∀ r ∈ db.requests.get? requestId, r.status ∉ _TERMINAL_STATUSES → ¬ r.Returning db
  | .completeReturn requestId nextStatus _ => ∀ r ∈ db.requests.get? requestId,
      ∀ i ∈ r.assignedItemId.bind db.items.get?, i.status ∈ _RETURN_ELIGIBLE_STATUSES →
        nextStatus ≠ .returnShippingPending
  | .changeStatus itemId status _ _ => db.items.get? itemId ≠ none → status = .returnShippingPending →
      db.AllAssigned itemId
  | .resolve ticketId .swapped _ swappedToItemId oldItemNextStatus _ =>
      ∀ t ∈ db.supportRequests.get? ticketId, t.status ≠ .resolved →
        ∀ i ∈ db.items.get? t.itemId, ∀ n ∈ swappedToItemId.bind db.items.get?, SwapTarget i n →
          ∀ q ∈ db.tiedRequest t, oldItemNextStatus = some .returnShippingPending →
            ∀ r ∈ db.requests.rows, r.id ≠ q.id → r.assignedItemId = some t.itemId → r.status = .assigned
  | .resolve ticketId .markedLost _ _ _ _ => ∀ t ∈ db.supportRequests.get? ticketId,
      t.status ≠ .resolved → ∀ r ∈ db.tiedRequest t, r.assignedItemId ≠ some t.itemId → ¬ r.Returning db
  | _ => True

/-- The same of the holder: the requests that point at the device are assigned. -/
def Event.KeepsReturns (db : Db) : Event → Prop
  | .service _ op => op.KeepsReturns db
  | .portal _ (.initiateReturn requestId _ _) => ∀ r ∈ db.requests.get? requestId,
      r.isWfh = true ∧ r.status = .assigned → ∀ i ∈ r.assignedItemId.bind db.items.get?, i.status = .assigned →
        db.AllAssigned i.id
  | .portal _ _ => True

theorem keepsReturns_decide_iff {q : UUID} {r : Request} {s : RequestStatus}
    (hr : db.requests.get? q = some r) :
    (Act.decide q s : CustodyAct).KeepsReturns db.custody ↔ ¬ r.Returning db := by
  simp only [Act.KeepsReturns, Db.custody_claim hr, Request.returning_iff]
  simp [Request.claim]

theorem keepsReturns_lose_iff {p q : UUID} {r : Request} (hr : db.requests.get? q = some r) :
    (Act.lose p q d : CustodyAct).KeepsReturns db.custody ↔
      (r.assignedItemId ≠ some d → ¬ r.Returning db) := by
  rw [Request.returning_iff]
  constructor
  · rintro h hne ⟨k, hk, hreturning⟩
    exact h r.claim (Db.custody_claim hr) k hk (fun he => hne (hk.trans (congrArg some he))) hreturning
  · intro h x hx k hk hne hreturning
    obtain rfl := Option.some.inj ((Db.custody_claim hr).symm.trans hx)
    exact h (fun he => hne (Option.some.inj (hk.symm.trans he))) ⟨k, hk, hreturning⟩

theorem Db.ReturnsOpen.decide (h : db.ReturnsOpen) {q : UUID} {r : Request} {s s' : RequestStatus}
    (hr : db.requests.get? q = some r) (hstatus : r.status = s) (hs : s ≠ .assigned) :
    (Act.decide q s' : CustodyAct).KeepsReturns db.custody := by
  apply (keepsReturns_decide_iff hr).mpr
  intro hreturning
  exact hs (hstatus.symm.trans (h r (Table.get?_mem hr) hreturning))

theorem Op.keepsReturns_iff {op : Op} (h : db.ReturnsOpen) (ha : op.Performs ctx db a) :
    a.KeepsReturns db.custody ↔ op.KeepsReturns db := by
  cases ha with
  | changeStatus hi =>
    have hknown := Option.ne_none_iff_exists'.mpr ⟨_, hi⟩
    exact (imp_congr_right fun _ => custody_booked).trans (imp_iff_right hknown).symm
  | reject hr hstatus => exact iff_of_true (h.decide hr hstatus (by decide)) trivial
  | escalateToManager hr hstatus => exact iff_of_true (h.decide hr hstatus (by decide)) trivial
  | @cancel _ _ _ r hr =>
    have hopen : r.Returning db → r.status ∉ _TERMINAL_STATUSES := fun hreturning =>
      h r (Table.get?_mem hr) hreturning ▸ by decide
    rw [keepsReturns_decide_iff hr]
    constructor
    · rintro hnot x hx -
      obtain rfl := Option.some.inj (hr.symm.trans hx)
      exact hnot
    · exact fun hkeeps hreturning => hkeeps r hr (hopen hreturning) hreturning
  | ship => exact iff_of_true nofun trivial
  | confirmDelivery => exact iff_of_true nofun trivial
  | completeReturn hr hd hi hstatus =>
    exact ⟨fun hnext _ _ _ _ _ => hnext, fun hkeeps => hkeeps _ hr _ (bind_eq_some hd hi) hstatus⟩
  | startRepair => exact iff_of_true nofun trivial
  | @swapped _ _ _ _ _ _ _ _ q r ht hopen hi hn htarget hq hr =>
    obtain rfl : r.id = q := Table.get?_key hr
    have htied : db.tiedRequest _ = some r := bind_eq_some hq hr
    simp [Act.KeepsReturns, Op.KeepsReturns, custody_bookedBeside, ht, hopen, hi, hn, htarget, htied]
  | markedLost ht hopen hq hr =>
    have htied : db.tiedRequest _ = some _ := bind_eq_some hq hr
    simp [keepsReturns_lose_iff hr, Op.KeepsReturns, ht, hopen, htied]
  | _ => exact Iff.rfl

/-- **One event keeps the law** exactly when it meets the condition. -/
theorem Db.ReturnsOpen.step_iff (h : db.ReturnsOpen) (hcommits : e.Commits db db') :
    db'.ReturnsOpen ↔ e.KeepsReturns db := by
  obtain ⟨a, hperforms, hstep⟩ := Event.refines hcommits
  rw [returnsOpen_iff, hstep.returnsOpen_iff (returnsOpen_iff.mp h)]
  cases hperforms with
  | service ha => exact Op.keepsReturns_iff h ha
  | portal ha =>
    cases ha with
    | submitRequest hr hstatus => exact iff_of_true (h.decide hr hstatus (by decide)) trivial
    | decideRequest hr hstatus => exact iff_of_true (h.decide hr hstatus (by decide)) trivial
    | @initiateReturn _ _ _ r i d hr hd hi hstatus hguard =>
      obtain rfl : i.id = d := Table.get?_key hi
      have hdevice : r.assignedItemId.bind db.items.get? = some i := bind_eq_some hd hi
      simp [Act.KeepsReturns, Event.KeepsReturns, custody_booked, hr, hguard, hdevice, hstatus]
    | _ => exact Iff.rfl

/-! ### Runs -/

/-- **The queue lists the open returns**, in every state of a run whose events meet the condition, and the next
event breaks that exactly when it does not meet it. -/
theorem returnsListed_of_run (hcoherent : db.Coherent) (h : db.ReturnsListed)
    (run : Run Step (fun db e => e.KeepsReturns db) db db') :
    db'.ReturnsListed ∧
      ∀ (e : Event) (db'' : Db), e.Commits db' db'' → (db''.ReturnsListed ↔ e.KeepsReturns db') := by
  have hallowed : ∀ {db : Db} {e : Event}, e.KeepsReturns db → True ∧ e.KeepsReturns db :=
    fun hkeeps => ⟨trivial, hkeeps⟩
  obtain ⟨hcoherent', hlaw, hexact⟩ := exact_of_run hallowed (fun hcoherent _ hcommits => hcoherent.step hcommits)
    (fun _ _ hcommits hlaw => hlaw.step_iff hcommits) hcoherent ((returnsListed_iff hcoherent).mp h) run
  refine ⟨(returnsListed_iff hcoherent').mpr hlaw, fun e db'' hcommits => ?_⟩
  rw [returnsListed_iff (hcoherent'.step hcommits)]
  exact hexact e db'' trivial hcommits

/-- Laptop 1 is handed out to be used from home. -/
def Sample.remote : Event := call (.assign 1 1 0 10 true 9)

/-- Its holder sends it back. -/
def Sample.sendBack : Event := .portal Sample.ctx (.initiateReturn 1 none 5)

/-- The same with laptop 2, which employee 2 has given back before. -/
def Sample.sentBackAgain : List Event :=
  [call (.completeReturn 2 .available 9), call (.assign 1 2 0 10 true 9), sendBack]

/-- Laptop 1 is on its way back, and the queue has request 1. -/
theorem returnsListed_of_run_sendBack :
    (Sample.sendBack.exec (Sample.remote.exec Sample.store)).ReturnsListed := by
  have hcoherent : Sample.store.Coherent := by decide
  have hkeeps : Sample.sendBack.KeepsReturns (Sample.remote.exec Sample.store) := by
    intro r hr _ i hi _
    obtain rfl := Option.some.inj hr
    obtain rfl := Option.some.inj hi
    unfold Db.AllAssigned
    decide
  exact (returnsListed_of_run hcoherent ((returnsListed_iff hcoherent).mpr (by decide))
    (.step (.step .refl Sample.remote trivial rfl) Sample.sendBack hkeeps rfl)).1

/-- Laptop 2 is on its way back, and the queue has the completed request 2 beside request 1. -/
theorem initiateReturn_not_returnsListed :
    Sample.store.Coherent ∧ Sample.store.ReturnsListed ∧ (∀ e ∈ Sample.sentBackAgain, e.Admitted) ∧
      ¬ (Sample.after Sample.sentBackAgain).ReturnsListed := by
  have hcoherent : Sample.store.Coherent := by decide
  have hcoherent' : (Sample.after Sample.sentBackAgain).Coherent := by decide
  rw [returnsListed_iff hcoherent, returnsListed_iff hcoherent']
  refine ⟨hcoherent, by decide, by decide, ?_⟩
  decide

end AssetPilot
