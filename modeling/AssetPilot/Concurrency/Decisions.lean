import AssetPilot.Concurrency.Allocation

/-!
# Decisions on one waiting request

A call on a request that waits for IT approval reads it at one store and commits at a later one, in which
the other call may have decided the request. Whether it goes through does not depend on that: the guards
were evaluated on what was read, and the columns it writes satisfy the constraints in both stores
(`accepted_of_lands`, `lands_of_accepted`). This is what makes two overlapping decisions both succeed.
-/

namespace AssetPilot

open Relational Txn System
open AssignmentService RequestService
open SQLAlchemyRepository (flushed)

variable {ctx : Ctx} {db db' db₁ db₂ : Db} {R : UUID} {r r₁ row : Request} {c : Call}

/-- A request in an approval queue carries no device. -/
def Db.Queued (db : Db) : Prop :=
  ∀ q ∈ db.requests.rows, q.status ∈ [RequestStatus.pendingMgrApproval, .pendingItApproval] →
    q.assignedItemId = none

instance (db : Db) : Decidable db.Queued := inferInstanceAs (Decidable (∀ q ∈ _, _))

/-- The services keep it so: only assigned requests carry a device. -/
theorem queued_of_run (h : db.Settled) (run : Run Step TicketsTied db db') : db'.Queued := by
  intro q hq hstatus
  by_contra hdevice
  have hnot : ∀ s ∈ [RequestStatus.pendingMgrApproval, .pendingItApproval],
      s ∉ _TERMINAL_STATUSES ∧ s ≠ .assigned := by decide
  obtain ⟨hopen, hne⟩ := hnot _ hstatus
  exact hne ((carried_of_run h run).2.assigned (Db.custody_claim (Table.mem_iff_get?.mp hq)) hdevice
    fun he => hopen (mem_TERMINAL_STATUSES.mpr he))

/-- The status that the call gives its request. -/
def Call.target : Call → RequestStatus
  | .assign .. | .directAssign .. => .assigned
  | .reject .. => .rejected
  | .cancel .. => .cancelled
  | .escalateToManager .. => .pendingMgrApproval

theorem Call.target_ne_pending (c : Call) : c.target ≠ .pendingItApproval := by
  cases c <;> simp [Call.target]

theorem Call.item_eq_none (h : c.target ≠ .assigned) : c.item = none := by
  cases c with
  | assign | directAssign => exact absurd rfl h
  | reject | cancel | escalateToManager => rfl

theorem Call.eq_assign (hc : c.request = some R) (h : c.target = .assigned) :
    ∃ itemId f t wfh actorId, c = .assign R itemId f t wfh actorId := by
  cases c with
  | assign requestId itemId f t wfh actorId =>
    obtain rfl := Option.some.inj hc
    exact ⟨itemId, f, t, wfh, actorId, rfl⟩
  | directAssign => exact absurd hc (Option.some_ne_none R).symm
  | reject | cancel | escalateToManager => simp [Call.target] at h

theorem Call.eq_cancel (hc : c.request = some R) (h : c.target = .cancelled) :
    ∃ reason actorId, c = .cancel R reason actorId := by
  cases c with
  | cancel requestId reason actorId =>
    obtain rfl := Option.some.inj hc
    exact ⟨reason, actorId, rfl⟩
  | assign | directAssign | reject | escalateToManager => simp [Call.target] at h

theorem Call.eq_escalateToManager (hc : c.request = some R) (h : c.target = .pendingMgrApproval) :
    ∃ managerId, c = .escalateToManager R managerId := by
  cases c with
  | escalateToManager requestId managerId =>
    obtain rfl := Option.some.inj hc
    exact ⟨managerId, rfl⟩
  | assign | directAssign | reject | cancel => simp [Call.target] at h

/-- The guards that a decision on the waiting request `r` has to pass at `db`, and what its foreign keys
and the unique index demand of its arguments. -/
def Call.Accepted (db : Db) (r : Request) : Call → Prop
  | .assign _ itemId _ _ _ actorId =>
    (∃ x, db.items.get? itemId = some x ∧ x.status = .available ∧ x.categoryId = r.categoryId) ∧
      ¬ db.Booked itemId ∧ db.users.get? actorId ≠ none
  | .reject _ _ _ actorId => db.users.get? actorId ≠ none
  | .cancel _ _ actorId => db.users.get? actorId ≠ none
  | .escalateToManager _ managerId =>
    r.requiresMgrApproval = false ∧ db.users.References (resolvedManager db r managerId)
  | .directAssign .. => False

/-- The call reads at `db` and commits at `db₁`, which it takes to `db₂`. -/
def Call.Lands (c : Call) (ctx : Ctx) (db db₁ : Db) (row : Request) (db₂ : Db) : Prop :=
  ∃ u, c.stage.Runs ctx db u db ∧ u.commit.Runs ctx db₁ row db₂

theorem Call.lands_self : c.Lands ctx db db row db' ↔ c.run.Runs ctx db row db' := by
  rw [Call.run_eq, runs_bind]
  constructor
  · rintro ⟨u, hu, hc⟩
    exact ⟨u, db, hu, hc⟩
  · rintro ⟨u, db₁, hu, hc⟩
    obtain rfl := Call.stage_eq hu
    exact ⟨u, hu, hc⟩

/-! ### A later store -/

/-- Since `db` at most the request `R`, which is now `r₁`, and rows of existing items have been
written. -/
structure Since (R : UUID) (db db₁ : Db) (r₁ : Request) : Prop where
  consistent : db₁.Consistent
  stored : db₁.requests.get? R = some r₁
  others : ∀ k, k ≠ R → db₁.requests.get? k = db.requests.get? k
  users : db₁.users = db.users
  categories : db₁.categories = db.categories
  items : ∀ k, db₁.items.get? k = none ↔ db.items.get? k = none

theorem Since.refl (h : db.Consistent) (hr : db.requests.get? R = some r) : Since R db db r :=
  ⟨h, hr, fun _ _ => rfl, rfl, rfl, fun _ => Iff.rfl⟩

theorem Since.mem (h : Since R db db₁ r₁) {x : Request} (hx : x.id ≠ R) :
    x ∈ db₁.requests.rows ↔ x ∈ db.requests.rows := by
  have hget : db₁.requests.get? x.id = db.requests.get? x.id := h.others x.id hx
  rw [← Table.mem_def, ← Table.mem_def, Table.mem_iff_get?, Table.mem_iff_get?]
  exact hget ▸ Iff.rfl

/-- The foreign keys of a request. -/
structure Db.RequestRefs (db : Db) (r : Request) : Prop where
  requester : db.users.References r.requesterId
  category : db.categories.References r.categoryId
  item : db.items.References r.assignedItemId
  manager : db.users.References r.managerId
  decider : db.users.References r.itDecidedBy
  canceller : db.users.References r.cancelledBy
  completer : db.users.References r.completedBy

theorem Db.RequestIntegral.refs (h : db.RequestIntegral r) : db.RequestRefs r := by
  obtain ⟨-, h₁, h₂, h₃, h₄, h₅, h₆, h₇⟩ := h
  exact ⟨h₁, h₂, h₃, h₄, h₅, h₆, h₇⟩

theorem Db.RequestRefs.integral (h : db.RequestRefs r)
    (hindex : ∀ x ∈ db.requests.rows, x.id ≠ r.id → ¬ clashes x r) : db.RequestIntegral r :=
  ⟨hindex, h.requester, h.category, h.item, h.manager, h.decider, h.canceller, h.completer⟩

theorem Since.refs (h : Since R db db₁ r₁) (hr : db.RequestRefs r) : db₁.RequestRefs r where
  requester := h.users ▸ hr.requester
  category := h.categories ▸ hr.category
  item k hk hnone := hr.item k hk ((h.items k).mp hnone)
  manager := h.users ▸ hr.manager
  decider := h.users ▸ hr.decider
  canceller := h.users ▸ hr.canceller
  completer := h.users ▸ hr.completer

/-- What holds of the changed and of the stored value holds of the column. -/
theorem column_induction {α : Type} [DecidableEq α] {P : α → Prop} {l c x : α} (hc : P c) (hx : P x) :
    P (column l c x) := by
  unfold column
  split_ifs
  · exact hx
  · exact hc

theorem references_of_column {α : Type} [Keyed α UUID] {t : Table α} {l c x : Option UUID}
    (h : t.References (column l c x)) (hl : t.References l) : t.References c := by
  unfold column at h
  split_ifs at h with he
  · exact he ▸ hl
  · exact h

theorem Db.RequestRefs.overlaid {l c x : Request} (hc : db.RequestRefs c) (hx : db.RequestRefs x) :
    db.RequestRefs (overlaid ctx l c x) where
  requester := @column_induction _ _ (fun k => db.users.References (some k)) _ _ _ hc.requester hx.requester
  category := @column_induction _ _ (fun k => db.categories.References (some k)) _ _ _ hc.category hx.category
  item := column_induction hc.item hx.item
  manager := column_induction hc.manager hx.manager
  decider := column_induction hc.decider hx.decider
  canceller := column_induction hc.canceller hx.canceller
  completer := column_induction hc.completer hx.completer

/-! ### Going through -/

theorem column_of_ne {α : Type} [DecidableEq α] {l c : α} (h : c ≠ l) (x : α) : column l c x = c :=
  if_neg h

theorem runs_updateRequest {changed : Request} (hs : Since R db db₁ r₁) (hid : r.id = R) :
    (updateColumns r changed).Runs ctx db₁ row db₂ ↔
      db₁.RequestIntegral row ∧ row = overlaid ctx r changed r₁ ∧ db₂ = db₁.setRequest row := by
  obtain rfl := hid
  have hstored : SQLAlchemyRepository.stored db₁ r = some r₁ := hs.stored
  rw [runs_updateColumns, hstored, ← Request.constraints_ok]
  constructor
  · rintro ⟨_, he, hok, hrow, hdb⟩
    obtain rfl := Option.some.inj he
    exact ⟨hok, hrow, hdb⟩
  · rintro ⟨hok, hrow, hdb⟩
    exact ⟨r₁, rfl, hok, hrow, hdb⟩

/-- A waiting request carries no device yet, so `assign` sets the column whatever the row says by now. -/
theorem assignedRequest_booking {itemId actorId : UUID} {f t now : Datetime} {wfh : Bool}
    (hpending : r.status = .pendingItApproval) (hdevice : r.assignedItemId = none) :
    (overlaid ctx r (assignedRequest r itemId f t wfh actorId now) r₁).IsBookingFor itemId := by
  constructor
  · exact column_of_ne (hdevice ▸ Option.some_ne_none itemId) _
  · show column r.status .assigned r₁.status = .assigned
    exact column_of_ne (by rw [hpending]; decide) _

theorem Db.Queued.waiting (h : db.Queued) (hr : db.requests.get? R = some r)
    (hpending : r.status = .pendingItApproval) : r.assignedItemId = none :=
  h r (Table.get?_mem hr) (by rw [hpending]; decide)

theorem assign_accepted {itemId actorId : UUID} {f t : Datetime} {wfh : Bool} (hqueued : db.Queued)
    (hr : db.requests.get? R = some r) (hpending : r.status = .pendingItApproval) (hs : Since R db db₁ r₁)
    (hlands : (Call.assign R itemId f t wfh actorId).Lands ctx db db₁ row db₂) :
    (Call.assign R itemId f t wfh actorId).Accepted db r := by
  obtain ⟨u, hu, hcommit⟩ := hlands
  have hid : r.id = R := Table.get?_key hr
  obtain ⟨r', hr', -, x, hx, havailable, hcategory, -, rfl, -⟩ := runs_stageAssign.mp hu
  obtain rfl := Option.some.inj (hr.symm.trans hr')
  obtain ⟨db₃, hflush, x', db₄, hupdate, hlog, -⟩ := runs_handOver.mp hcommit
  obtain ⟨hintegral, hrow, rfl⟩ := (runs_updateRequest hs hid).mp hflush
  obtain ⟨-, -, -, -, rfl⟩ := runs_updateColumns.mp hupdate
  refine ⟨⟨x, hx, havailable, hcategory⟩, fun ⟨q, hq, hqb⟩ => ?_, ?_⟩
  · -- the unique index would refuse a second booking
    have hne : q.id ≠ R := fun he => by
      have hget : db.requests.get? q.id = some q := Table.mem_iff_get?.mp hq
      rw [he, hr] at hget
      obtain rfl := Option.some.inj hget
      exact absurd (hpending.symm.trans hqb.2) (by decide)
    have hbooking : row.IsBookingFor itemId :=
      hrow ▸ assignedRequest_booking hpending (hqueued.waiting hr hpending)
    have hrowid : row.id = r₁.id := hrow ▸ rfl
    have hqid := hintegral.not_booked hbooking ((hs.mem hne).mpr hq) hqb
    exact hne (hqid.trans (hrowid.trans (Table.get?_key hs.stored)))
  · have hactor := (handedLog_integral.mp hlog).2.1
    exact hs.users ▸ hactor

/-- **Whatever goes through was acceptable** when it was read. -/
theorem accepted_of_lands (h : db.Consistent) (hqueued : db.Queued) (hr : db.requests.get? R = some r)
    (hpending : r.status = .pendingItApproval) (hc : c.request = some R) (hs : Since R db db₁ r₁)
    (hlands : c.Lands ctx db db₁ row db₂) : c.Accepted db r := by
  obtain ⟨u, hu, hcommit⟩ := hlands
  have hrefs := hs.refs (h.requests r (Table.get?_mem hr)).refs
  have hid : r.id = R := Table.get?_key hr
  cases c with
  | directAssign => exact absurd hc (Option.some_ne_none R).symm
  | assign requestId itemId f t wfh actorId =>
    obtain rfl := (Option.some.inj hc).symm
    exact assign_accepted hqueued hr hpending hs ⟨u, hu, hcommit⟩
  | reject requestId reason note actorId =>
    obtain rfl := (Option.some.inj hc).symm
    obtain ⟨r', hr', -, -, rfl⟩ := runs_stageReject.mp hu
    obtain rfl := Option.some.inj (hr.symm.trans hr')
    obtain ⟨hintegral, rfl, -⟩ := (runs_updateRequest hs hid).mp hcommit
    have hactor := references_of_column hintegral.refs.decider hrefs.decider
    rw [hs.users] at hactor
    exact hactor actorId rfl
  | cancel requestId reason actorId =>
    obtain rfl := (Option.some.inj hc).symm
    obtain ⟨r', hr', -, -, rfl⟩ := runs_stageCancel.mp hu
    obtain rfl := Option.some.inj (hr.symm.trans hr')
    obtain ⟨hintegral, rfl, -⟩ := (runs_updateRequest hs hid).mp hcommit
    have hactor := references_of_column hintegral.refs.canceller hrefs.canceller
    rw [hs.users] at hactor
    exact hactor actorId rfl
  | escalateToManager requestId managerId =>
    obtain rfl := (Option.some.inj hc).symm
    obtain ⟨r', hr', ⟨-, hrequires⟩, -, rfl⟩ := runs_stageEscalateToManager.mp hu
    obtain rfl := Option.some.inj (hr.symm.trans hr')
    obtain ⟨hintegral, rfl, -⟩ := (runs_updateRequest hs hid).mp hcommit
    have hmanager := references_of_column hintegral.refs.manager hrefs.manager
    rw [hs.users] at hmanager
    exact ⟨hrequires, hmanager⟩

theorem runs_updateItem {x current : Item} {ownerId : UUID} (h : db.Consistent)
    (hcurrent : db.items.get? x.id = some current) (havailable : x.status = .available)
    (howner : db.users.get? ownerId ≠ none) :
    ∃ x', (updateColumns x (handedItem x ownerId)).Runs ctx db x' (db.setItem x') ∧ x'.id = x.id := by
  have hcid : current.id = x.id := Table.get?_key hcurrent
  obtain ⟨hfits, hunique, hcategory, hcurrentOwner⟩ := h.items current (Table.get?_mem hcurrent)
  refine ⟨overlaid ctx x (handedItem x ownerId) current,
    runs_updateColumns.mpr ⟨current, hcurrent, Item.constraints_ok.mpr ?_, rfl, rfl⟩, hcid⟩
  rw [overlaid_handedItem havailable]
  refine ⟨hfits, hunique, hcategory, column_induction ?_ hcurrentOwner⟩
  exact fun k hk => Option.some.inj hk ▸ howner

/-- A request that is no longer active is outside the unique index. -/
theorem Db.not_clashes_of_inactive (h : activeStatus row.status = false) (x : Request) :
    ¬ clashes x row :=
  fun hclash => Bool.false_ne_true (h.symm.trans hclash.1)

theorem overlaid_status {changed : Request} {s : RequestStatus} (hs : changed.status = s)
    (hne : s ≠ r.status) : (overlaid ctx r changed r₁).status = s := by
  subst hs
  exact column_of_ne hne _

/-- The request is booked over whatever its row says by then, and the item over its own. -/
theorem assign_lands {itemId actorId : UUID} {f t : Datetime} {wfh : Bool} (h : db.Consistent)
    (hqueued : db.Queued) (hr : db.requests.get? R = some r) (hpending : r.status = .pendingItApproval)
    (hs : Since R db db₁ r₁) (haccepted : (Call.assign R itemId f t wfh actorId).Accepted db r) :
    ∃ row db₂, (Call.assign R itemId f t wfh actorId).Lands ctx db db₁ row db₂ := by
  have hrefs := hs.refs (h.requests r (Table.get?_mem hr)).refs
  have hrefs₁ := (hs.consistent.requests r₁ (Table.get?_mem hs.stored)).refs
  have hid : r.id = R := Table.get?_key hr
  have hid₁ : r₁.id = R := Table.get?_key hs.stored
  have hdevice := hqueued.waiting hr hpending
  obtain ⟨⟨x, hx, havailable, hcategory⟩, hfree, hactor⟩ := haccepted
  obtain rfl : x.id = itemId := Table.get?_key hx
  have hitem : db₁.items.get? x.id ≠ none := fun hnone =>
    Option.some_ne_none x (hx.symm.trans ((hs.items _).mp hnone))
  obtain ⟨current, hcurrent⟩ := Option.ne_none_iff_exists'.mp hitem
  rw [← hs.users] at hactor
  have hchanged : db₁.RequestRefs (assignedRequest r x.id f t wfh actorId (ctx.clock 0)) :=
    ⟨hrefs.requester, hrefs.category, fun k hk => Option.some.inj hk ▸ hitem, hrefs.manager,
      fun k hk => Option.some.inj hk ▸ hactor, hrefs.canceller, hrefs.completer⟩
  have hbooking := @assignedRequest_booking ctx r r₁ x.id actorId f t (ctx.clock 0) wfh hpending hdevice
  have hover := @Db.RequestRefs.overlaid ctx db₁ r _ r₁ hchanged hrefs₁
  have hintegral := hover.integral fun y hy hne hclash =>
    hfree ⟨y, (hs.mem fun he => hne (he.trans hid₁.symm)).mp hy, hclash.2.2.1.trans hbooking.1,
      hclash.2.2.2.trans hbooking.2⟩
  obtain ⟨x', hx', hxid⟩ := @runs_updateItem ctx _ x current r.requesterId
    (hs.consistent.setRequest hintegral) hcurrent havailable (hrefs.requester _ rfl)
  refine ⟨_, _, _, runs_stageAssign.mpr ⟨r, hr, hpending, x, hx, havailable, hcategory,
    fun y hy hoverlaps => absurd ⟨y, hy, hoverlaps.1⟩ hfree, rfl, rfl⟩,
    runs_handOver.mpr ⟨_, (runs_updateRequest hs hid).mpr ⟨hintegral, rfl, rfl⟩, x', _, hx',
      handedLog_integral.mpr ⟨?_, hactor, ?_⟩, rfl⟩⟩
  · exact fun hnone => hitem (Table.get?_set_eq_none.mp hnone)
  · exact fun hnone => Option.some_ne_none r₁
      (hs.stored.symm.trans (Table.get?_set_eq_none.mp (hid ▸ hnone)))

/-- **Whatever was acceptable goes through**, also when the other call has written the request since. -/
theorem lands_of_accepted (ctx : Ctx) (h : db.Consistent) (hqueued : db.Queued)
    (hr : db.requests.get? R = some r) (hpending : r.status = .pendingItApproval)
    (hc : c.request = some R) (hs : Since R db db₁ r₁) (haccepted : c.Accepted db r) :
    ∃ row db₂, c.Lands ctx db db₁ row db₂ := by
  have hrefs := hs.refs (h.requests r (Table.get?_mem hr)).refs
  have hrefs₁ := (hs.consistent.requests r₁ (Table.get?_mem hs.stored)).refs
  have hid : r.id = R := Table.get?_key hr
  have hid₁ : r₁.id = R := Table.get?_key hs.stored
  cases c with
  | directAssign => exact absurd hc (Option.some_ne_none R).symm
  | assign requestId itemId f t wfh actorId =>
    obtain rfl := (Option.some.inj hc).symm
    exact assign_lands h hqueued hr hpending hs haccepted
  | reject requestId reason note actorId =>
    obtain rfl := (Option.some.inj hc).symm
    have hchanged : db₁.RequestRefs (rejectedRequest r reason note actorId (ctx.clock 0)) :=
      ⟨hrefs.requester, hrefs.category, hrefs.item, hrefs.manager,
        fun k hk => Option.some.inj hk ▸ hs.users ▸ haccepted, hrefs.canceller, hrefs.completer⟩
    have hstatus := @overlaid_status ctx r r₁ (rejectedRequest r reason note actorId (ctx.clock 0)) .rejected
      rfl (by rw [hpending]; decide)
    refine ⟨_, _, _, runs_stageReject.mpr ⟨r, hr, hpending, rfl, rfl⟩,
      (runs_updateRequest hs hid).mpr ⟨(hchanged.overlaid hrefs₁).integral fun x _ _ => ?_, rfl, rfl⟩⟩
    exact Db.not_clashes_of_inactive (by rw [hstatus]; rfl) x
  | cancel requestId reason actorId =>
    obtain rfl := (Option.some.inj hc).symm
    have hchanged : db₁.RequestRefs (cancelledRequest r reason actorId (ctx.clock 0)) :=
      ⟨hrefs.requester, hrefs.category, hrefs.item, hrefs.manager, hrefs.decider,
        fun k hk => Option.some.inj hk ▸ hs.users ▸ haccepted, hrefs.completer⟩
    have hstatus := @overlaid_status ctx r r₁ (cancelledRequest r reason actorId (ctx.clock 0)) .cancelled
      rfl (by rw [hpending]; decide)
    refine ⟨_, _, _, runs_stageCancel.mpr ⟨r, hr, by rw [hpending]; decide, rfl, rfl⟩,
      (runs_updateRequest hs hid).mpr ⟨(hchanged.overlaid hrefs₁).integral fun x _ _ => ?_, rfl, rfl⟩⟩
    exact Db.not_clashes_of_inactive (by rw [hstatus]; rfl) x
  | escalateToManager requestId managerId =>
    obtain rfl := (Option.some.inj hc).symm
    have hchanged : db₁.RequestRefs (escalatedRequest r (resolvedManager db r managerId)) :=
      ⟨hrefs.requester, hrefs.category, hrefs.item, hs.users ▸ haccepted.2, hrefs.decider,
        hrefs.canceller, hrefs.completer⟩
    have hstatus := @overlaid_status ctx r r₁ (escalatedRequest r (resolvedManager db r managerId))
      .pendingMgrApproval rfl (by rw [hpending]; decide)
    refine ⟨_, _, _, runs_stageEscalateToManager.mpr ⟨r, hr, ⟨hpending, haccepted.1⟩, rfl, rfl⟩,
      (runs_updateRequest hs hid).mpr ⟨(hchanged.overlaid hrefs₁).integral fun x hx hne hclash => ?_,
        rfl, rfl⟩⟩
    -- a request in the managers' queue has no device to clash about
    have hx' : x ∈ db.requests.rows := (hs.mem fun he => hne (he.trans hid₁.symm)).mp hx
    have hxstatus : x.status = .pendingMgrApproval := hclash.2.2.2.trans hstatus
    have hxdevice := hqueued x hx' (by rw [hxstatus]; decide)
    exact hclash.2.1 (hclash.2.2.1.symm.trans hxdevice)

/-! ### What it leaves -/

/-- The call has taken the request from `r₁` at `db₁` to `row` at `db₂`. -/
structure Decided (R : UUID) (c : Call) (db₁ : Db) (r₁ row : Request) (db₂ : Db) : Prop where
  since : Since R db₁ db₂ row
  status : row.status = c.target
  requester : row.requesterId = r₁.requesterId
  untouched : c.item = none → db₂.items = db₁.items
  handed : ∀ d, c.item = some d → row.assignedItemId = some d ∧
    ∀ k, k ≠ d → db₂.items.get? k = db₁.items.get? k

theorem Decided.items_eq (h : Decided R c db₁ r₁ row db₂) (hc : c.target ≠ .assigned) :
    db₂.items = db₁.items :=
  h.untouched (Call.item_eq_none hc)

theorem Since.setRequest (hs : Since R db db₁ r₁) (hintegral : db₁.RequestIntegral row)
    (hid : row.id = R) : Since R db₁ (db₁.setRequest row) row where
  consistent := hs.consistent.setRequest hintegral
  stored := Table.get?_set_self hs.stored hid
  others k hk := Table.get?_set_of_ne (show k ≠ row.id from hid ▸ hk)
  users := rfl
  categories := rfl
  items _ := Iff.rfl

theorem Since.setItem {x' : Item} (hs : Since R db db₁ r₁) (hx' : x'.Fits ∧ db₁.ItemIntegral x') :
    Since R db (db₁.setItem x') r₁ :=
  { hs with
    consistent := hs.consistent.setItem hx'
    items := fun k => Table.get?_set_eq_none.trans (hs.items k) }

theorem Since.appendLog (hs : Since R db db₁ r₁) (l : DeviceLog) : Since R db (db₁.appendLog l) r₁ :=
  { hs with consistent := hs.consistent.appendLog }

theorem decided_of_decision {changed : Request} (hs : Since R db db₁ r₁) (hid : r.id = R)
    (hcommit : (UnitOfWork.decision r changed).commit.Runs ctx db₁ row db₂) (hitem : c.item = none)
    (hstatus : changed.status = c.target) (hne : c.target ≠ r.status)
    (hrequester : changed.requesterId = r.requesterId) : Decided R c db₁ r₁ row db₂ := by
  obtain ⟨hintegral, rfl, rfl⟩ := (runs_updateRequest hs hid).mp hcommit
  refine ⟨hs.setRequest hintegral (Table.get?_key hs.stored), ?_, ?_, fun _ => rfl,
    fun d hd => absurd (hitem.symm.trans hd) (Option.some_ne_none d).symm⟩
  · exact overlaid_status hstatus hne
  · show column r.requesterId changed.requesterId r₁.requesterId = r₁.requesterId
    rw [hrequester, column_unchanged]

theorem decided_of_lands (hqueued : db.Queued) (hr : db.requests.get? R = some r)
    (hpending : r.status = .pendingItApproval) (hc : c.request = some R) (hs : Since R db db₁ r₁)
    (hlands : c.Lands ctx db db₁ row db₂) : Decided R c db₁ r₁ row db₂ := by
  obtain ⟨u, hu, hcommit⟩ := hlands
  have hid : r.id = R := Table.get?_key hr
  have hne : c.target ≠ r.status := by
    rw [hpending]
    exact c.target_ne_pending
  cases c with
  | directAssign => exact absurd hc (Option.some_ne_none R).symm
  | assign requestId itemId f t wfh actorId =>
    obtain rfl := (Option.some.inj hc).symm
    obtain ⟨r', hr', -, x, hx, havailable, hcategory, -, rfl, -⟩ := runs_stageAssign.mp hu
    obtain rfl := Option.some.inj (hr.symm.trans hr')
    obtain ⟨db₃, hflush, x', db₄, hupdate, -, rfl⟩ := runs_handOver.mp hcommit
    obtain ⟨hintegral, rfl, rfl⟩ := (runs_updateRequest hs hid).mp hflush
    obtain ⟨current, hcurrent, hok, hx', rfl⟩ := runs_updateColumns.mp hupdate
    have hcurrentId : current.id = x.id := Table.get?_key hcurrent
    have hxid : x'.id = itemId := (hx' ▸ hcurrentId : x'.id = x.id).trans (Table.get?_key hx)
    have hbooking := @assignedRequest_booking ctx r r₁ itemId actorId f t (ctx.clock 0) wfh hpending
      (hqueued.waiting hr hpending)
    refine ⟨((hs.setRequest hintegral (Table.get?_key hs.stored)).setItem
      (Item.constraints_ok.mp hok)).appendLog _, hbooking.2, column_unchanged _ _,
      fun hnone => absurd hnone (Option.some_ne_none itemId), fun d hd => ?_⟩
    obtain rfl := Option.some.inj hd
    exact ⟨hbooking.1, fun k hk => Table.get?_set_of_ne (show k ≠ x'.id from hxid ▸ hk)⟩
  | reject requestId reason note actorId =>
    obtain rfl := (Option.some.inj hc).symm
    obtain ⟨r', hr', -, -, rfl⟩ := runs_stageReject.mp hu
    obtain rfl := Option.some.inj (hr.symm.trans hr')
    exact decided_of_decision hs hid hcommit rfl rfl hne rfl
  | cancel requestId reason actorId =>
    obtain rfl := (Option.some.inj hc).symm
    obtain ⟨r', hr', -, -, rfl⟩ := runs_stageCancel.mp hu
    obtain rfl := Option.some.inj (hr.symm.trans hr')
    exact decided_of_decision hs hid hcommit rfl rfl hne rfl
  | escalateToManager requestId managerId =>
    obtain rfl := (Option.some.inj hc).symm
    obtain ⟨r', hr', -, -, rfl⟩ := runs_stageEscalateToManager.mp hu
    obtain rfl := Option.some.inj (hr.symm.trans hr')
    exact decided_of_decision hs hid hcommit rfl rfl hne rfl

/-! ### After the other call -/

/-- On a request that has been decided, only `cancel` still goes through, and only while it is open. -/
theorem lands_after (hr : db.requests.get? R = some r) (hpending : r.status ≠ .pendingItApproval)
    (hc : c.request = some R) (hlands : c.Lands ctx db db₁ row db₂) :
    c.target = .cancelled ∧ r.status ∉ _TERMINAL_STATUSES := by
  obtain ⟨u, hu, -⟩ := hlands
  cases c with
  | directAssign => exact absurd hc (Option.some_ne_none R).symm
  | assign requestId itemId f t wfh actorId =>
    obtain rfl := (Option.some.inj hc).symm
    obtain ⟨r', hr', hstatus, -⟩ := runs_stageAssign.mp hu
    obtain rfl := Option.some.inj (hr.symm.trans hr')
    exact absurd hstatus hpending
  | reject requestId reason note actorId =>
    obtain rfl := (Option.some.inj hc).symm
    obtain ⟨r', hr', hstatus, -⟩ := runs_stageReject.mp hu
    obtain rfl := Option.some.inj (hr.symm.trans hr')
    exact absurd hstatus hpending
  | cancel requestId reason actorId =>
    obtain rfl := (Option.some.inj hc).symm
    obtain ⟨r', hr', hopen, -⟩ := runs_stageCancel.mp hu
    obtain rfl := Option.some.inj (hr.symm.trans hr')
    exact ⟨rfl, hopen⟩
  | escalateToManager requestId managerId =>
    obtain rfl := (Option.some.inj hc).symm
    obtain ⟨r', hr', ⟨hstatus, -⟩, -⟩ := runs_stageEscalateToManager.mp hu
    obtain rfl := Option.some.inj (hr.symm.trans hr')
    exact absurd hstatus hpending

theorem cancel_lands_iff (hs : Since R db db₁ r₁) (hopen : r₁.status ∉ _TERMINAL_STATUSES)
    (hc : c.request = some R) (hcTarget : c.target = .cancelled) :
    (∃ row db₂, c.Lands ctx db₁ db₁ row db₂) ↔ c.Accepted db r := by
  have hid : r₁.id = R := Table.get?_key hs.stored
  have hself : Since R db₁ db₁ r₁ := .refl hs.consistent hs.stored
  have hrefs := (hs.consistent.requests r₁ (Table.get?_mem hs.stored)).refs
  obtain ⟨reason, actorId, rfl⟩ := Call.eq_cancel hc hcTarget
  constructor
  · rintro ⟨row, db₂, u, hu, hcommit⟩
    obtain ⟨r', hr', -, -, rfl⟩ := runs_stageCancel.mp hu
    obtain rfl := Option.some.inj (hs.stored.symm.trans hr')
    obtain ⟨hintegral, rfl, -⟩ := (runs_updateRequest hself hid).mp hcommit
    have hactor := references_of_column hintegral.refs.canceller hrefs.canceller
    rw [hs.users] at hactor
    exact hactor actorId rfl
  · intro haccepted
    have hchanged : db₁.RequestRefs (cancelledRequest r₁ reason actorId (ctx.clock 0)) :=
      ⟨hrefs.requester, hrefs.category, hrefs.item, hrefs.manager, hrefs.decider,
        fun k hk => Option.some.inj hk ▸ hs.users ▸ haccepted, hrefs.completer⟩
    have hne : RequestStatus.cancelled ≠ r₁.status := fun he => hopen (he ▸ by decide)
    have hstatus := @overlaid_status ctx r₁ r₁ (cancelledRequest r₁ reason actorId (ctx.clock 0)) .cancelled
      rfl hne
    refine ⟨_, _, _, runs_stageCancel.mpr ⟨r₁, hs.stored, hopen, rfl, rfl⟩,
      (runs_updateRequest hself hid).mpr ⟨(hchanged.overlaid hrefs).integral fun x _ _ => ?_, rfl, rfl⟩⟩
    exact Db.not_clashes_of_inactive (by rw [hstatus]; rfl) x

theorem cancel_decided (hs : Since R db db₁ r₁) (hopen : r₁.status ∉ _TERMINAL_STATUSES)
    (hc : c.request = some R) (hcTarget : c.target = .cancelled)
    (hlands : c.Lands ctx db₁ db₁ row db₂) : Decided R c db₁ r₁ row db₂ := by
  obtain ⟨u, hu, hcommit⟩ := hlands
  have hne : RequestStatus.cancelled ≠ r₁.status := fun he => hopen (he ▸ by decide)
  obtain ⟨reason, actorId, rfl⟩ := Call.eq_cancel hc hcTarget
  obtain ⟨r', hr', -, -, rfl⟩ := runs_stageCancel.mp hu
  obtain rfl := Option.some.inj (hs.stored.symm.trans hr')
  exact decided_of_decision (.refl hs.consistent hs.stored) (Table.get?_key hs.stored) hcommit rfl rfl
    hne rfl

theorem overlaid_cancelledRequest {l x : Request} {reason : String} {actorId : UUID} {now : Datetime}
    (h : l.status ≠ .cancelled) : overlaid ctx l (cancelledRequest l reason actorId now) x =
      { x with
        status := .cancelled
        cancelledBy := column l.cancelledBy (some actorId) x.cancelledBy
        cancelledAt := column l.cancelledAt (some now) x.cancelledAt
        rejectedBy := column l.rejectedBy (some .itAdminCancel) x.rejectedBy
        rejectedReason := column l.rejectedReason (some reason) x.rejectedReason
        updatedAt := ctx.txTime } := by
  have hne : cancelledRequest l reason actorId now ≠ l := fun he =>
    h (congrArg Request.status he).symm
  have hstatus : column l.status .cancelled x.status = .cancelled := column_of_ne (Ne.symm h) _
  rw [overlaid, if_neg hne]
  simp only [Columns.overlay, cancelledRequest, column_unchanged, Model.touch, hstatus]

/-- `cancel` over an escalation leaves what it leaves after it: the columns it writes, but for the
status, the escalation has left alone. -/
theorem cancel_lands_after_escalation {a : Call} {ctxA : Ctx} (h : db.Consistent) (hqueued : db.Queued)
    (hr : db.requests.get? R = some r) (hpending : r.status = .pendingItApproval)
    (ha : a.request = some R) (haTarget : a.target = .pendingMgrApproval)
    (hlandsA : a.Lands ctxA db db r₁ db₁) (hc : c.request = some R) (hcTarget : c.target = .cancelled)
    (hlands : c.Lands ctx db db₁ row db₂) : c.Lands ctx db₁ db₁ row db₂ := by
  have hdecided := decided_of_lands hqueued hr hpending ha (.refl h hr) hlandsA
  have hstatus : r₁.status = .pendingMgrApproval := hdecided.status.trans haTarget
  obtain ⟨managerId, rfl⟩ := Call.eq_escalateToManager ha haTarget
  obtain ⟨reason, actorId, rfl⟩ := Call.eq_cancel hc hcTarget
  have halone : r₁.cancelledBy = r.cancelledBy ∧ r₁.cancelledAt = r.cancelledAt ∧
      r₁.rejectedBy = r.rejectedBy ∧ r₁.rejectedReason = r.rejectedReason := by
    obtain ⟨u, hu, hcommit⟩ := hlandsA
    obtain ⟨r', hr', -, -, rfl⟩ := runs_stageEscalateToManager.mp hu
    obtain rfl := Option.some.inj (hr.symm.trans hr')
    obtain ⟨-, rfl, -⟩ := (runs_updateRequest (.refl h hr) (Table.get?_key hr)).mp hcommit
    exact ⟨column_unchanged _ _, column_unchanged _ _, column_unchanged _ _, column_unchanged _ _⟩
  obtain ⟨hby, hat, hrejectedBy, hreason⟩ := halone
  obtain ⟨u, hu, hcommit⟩ := hlands
  obtain ⟨r', hr', -, -, rfl⟩ := runs_stageCancel.mp hu
  obtain rfl := Option.some.inj (hr.symm.trans hr')
  obtain ⟨hintegral, hrow, rfl⟩ := (runs_updateRequest hdecided.since (Table.get?_key hr)).mp hcommit
  refine ⟨_, runs_stageCancel.mpr ⟨r₁, hdecided.since.stored, by rw [hstatus]; decide, rfl, rfl⟩,
    (runs_updateRequest (.refl hdecided.since.consistent hdecided.since.stored)
      (Table.get?_key hdecided.since.stored)).mpr ⟨hintegral, hrow.trans ?_, rfl⟩⟩
  rw [overlaid_cancelledRequest (by rw [hpending]; decide),
    overlaid_cancelledRequest (by rw [hstatus]; decide)]
  simp only [hby, hat, hrejectedBy, hreason, column_same]

end AssetPilot
