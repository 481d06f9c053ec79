import AssetPilot.Effects.Items
import AssetPilot.Effects.Log
import AssetPilot.Effects.Users
import AssetPilot.Invariants.Closings
import AssetPilot.Invariants.EndedRequests
import AssetPilot.Lib.Evolution

/-!
# What is never rewritten

No service deletes a row, and no service writes the columns that say what a row is about: who asked for what,
which device has which serial number, what a ticket was filed on. `HistoryKept` collects, table by table, what
every run keeps, whoever calls what in which order.
-/

namespace AssetPilot

open Relational System Txn

variable {ctx : Ctx} {db db' db'' : Db} {e : Event}

/-! ### The rows of each table -/

/-- The columns of a user that no call writes. -/
def User.fixed (u : User) : UUID × String × String × Option String × Option UUID × Datetime :=
  (u.id, u.name, u.email, u.passwordHash, u.managerId, u.createdAt)

/-- The columns of an item that not even an edit writes. -/
def Item.fixed (i : Item) : UUID × String × OwnerType × UUID × Datetime :=
  (i.id, i.serialNo, i.ownerType, i.qrCodeToken, i.createdAt)

/-- What was asked for. -/
def Request.fixed (r : Request) :
    (UUID × UUID × UUID × Datetime × Datetime) × RequestPriority × Option String × Bool × Datetime :=
  ((r.id, r.requesterId, r.categoryId, r.requestedFrom, r.requestedTo), r.priority, r.note, r.isClientDirect,
    r.createdAt)

/-- What was reported. -/
def SupportRequest.fixed (t : SupportRequest) :
    (UUID × UUID × UUID × Option UUID) × SupportType × String × Datetime × Datetime :=
  ((t.id, t.itemId, t.requesterId, t.requestId), t.type, t.description, t.filedAt, t.createdAt)

/-- What was asked for. -/
def ExtensionRequest.fixed (x : ExtensionRequest) :
    (UUID × UUID × UUID) × Datetime × Datetime × Bool × Option UUID × Datetime :=
  ((x.id, x.originalRequestId, x.requesterId), x.currentAssignedTo, x.extendedTo, x.requiresMgrApproval, x.managerId,
    x.createdAt)

/-- What the manager says about an extension. -/
def ExtensionRequest.managerSide (x : ExtensionRequest) : MgrApprovalStatus × Option String × Option Datetime :=
  (x.mgrApprovalStatus, x.managerNote, x.managerDecidedAt)

/-- What IT says about it. -/
def ExtensionRequest.itSide (x : ExtensionRequest) : Option UUID × Option String × Option Datetime :=
  (x.itDecidedBy, x.itNote, x.itDecidedAt)

def User.Kept (u u' : User) : Prop := u'.fixed = u.fixed

def Item.Kept (i i' : Item) : Prop := i'.fixed = i.fixed

/-- A request stays what it is, one that has left the queues stays out of them, an ended one stays ended, and who
has to approve is not taken back. -/
structure Request.Kept (r r' : Request) : Prop where
  fixed : r'.fixed = r.fixed
  left : r.status ∉ _FILED_STATUSES → r'.status ∉ _FILED_STATUSES
  ended : r.status ∈ _TERMINAL_STATUSES → r'.status ∈ _TERMINAL_STATUSES
  requires : r.requiresMgrApproval = true → r'.requiresMgrApproval = true

/-- A ticket stays what it is, and a resolved one stays altogether. -/
structure SupportRequest.Kept (t t' : SupportRequest) : Prop where
  fixed : t'.fixed = t.fixed
  started : t.status ≠ .opened → t'.status ≠ .opened
  resolved : t.status = .resolved → t' = t

/-- An extension stays what it is, and each side speaks once. -/
structure ExtensionRequest.Kept (x x' : ExtensionRequest) : Prop where
  fixed : x'.fixed = x.fixed
  decided : x.status ≠ .pending → x'.status ≠ .pending ∧ x'.itSide = x.itSide
  managed : x.mgrApprovalStatus ≠ .pending → x'.managerSide = x.managerSide

instance : Std.Refl User.Kept := ⟨fun _ => rfl⟩
instance : IsTrans User User.Kept := ⟨fun _ _ _ h h' => h'.trans h⟩

instance : Std.Refl Item.Kept := ⟨fun _ => rfl⟩
instance : IsTrans Item Item.Kept := ⟨fun _ _ _ h h' => h'.trans h⟩

instance : Std.Refl Request.Kept := ⟨fun _ => ⟨rfl, id, id, id⟩⟩
instance : IsTrans Request Request.Kept where
  trans _ _ _ h h' :=
    ⟨h'.fixed.trans h.fixed, h'.left ∘ h.left, h'.ended ∘ h.ended, h'.requires ∘ h.requires⟩

instance : Std.Refl SupportRequest.Kept := ⟨fun _ => ⟨rfl, id, fun _ => rfl⟩⟩
instance : IsTrans SupportRequest SupportRequest.Kept where
  trans t t' t'' h h' := by
    refine ⟨h'.fixed.trans h.fixed, h'.started ∘ h.started, fun hresolved => ?_⟩
    have hsame := h.resolved hresolved
    exact (h'.resolved (hsame ▸ hresolved)).trans hsame

instance : Std.Refl ExtensionRequest.Kept := ⟨fun _ => ⟨rfl, fun h => ⟨h, rfl⟩, fun _ => rfl⟩⟩
instance : IsTrans ExtensionRequest ExtensionRequest.Kept where
  trans x x' x'' h h' := by
    refine ⟨h'.fixed.trans h.fixed, fun hdecided => ?_, fun hmanaged => ?_⟩
    · obtain ⟨hstill, hsame⟩ := h.decided hdecided
      obtain ⟨hstill', hsame'⟩ := h'.decided hstill
      exact ⟨hstill', hsame'.trans hsame⟩
    · have hsame := h.managed hmanaged
      have hstatus : x'.mgrApprovalStatus = x.mgrApprovalStatus := congrArg Prod.fst hsame
      have hstill : x'.mgrApprovalStatus ≠ .pending := hstatus ▸ hmanaged
      exact (h'.managed hstill).trans hsame

/-- **Nothing is lost**: every row of `db` is in `db'`, about what it was about, two tables are as they were, and
the log has only grown. -/
structure HistoryKept (db db' : Db) : Prop where
  users : db.users.Evolves User.Kept db'.users
  items : db.items.Evolves Item.Kept db'.items
  requests : db.requests.Evolves Request.Kept db'.requests
  supportRequests : db.supportRequests.Evolves SupportRequest.Kept db'.supportRequests
  extensionRequests : db.extensionRequests.Evolves ExtensionRequest.Kept db'.extensionRequests
  untouched : UntouchedKept db db'
  deviceLog : db.deviceLog <+: db'.deviceLog

instance : Std.Refl HistoryKept where
  refl _ := ⟨.refl _, .refl _, .refl _, .refl _, .refl _, ⟨rfl, rfl⟩, List.prefix_rfl⟩

instance : IsTrans Db HistoryKept where
  trans _ _ _ h h' :=
    { users := h.users.trans h'.users
      items := h.items.trans h'.items
      requests := h.requests.trans h'.requests
      supportRequests := h.supportRequests.trans h'.supportRequests
      extensionRequests := h.extensionRequests.trans h'.extensionRequests
      untouched := ⟨h'.untouched.1.trans h.untouched.1, h'.untouched.2.trans h.untouched.2⟩
      deviceLog := h.deviceLog.trans h'.deviceLog }

/-! ### One event -/

theorem Event.UsersStep.evolves (h : e.UsersStep db db') : db.users.Evolves User.Kept db'.users := by
  intro k u hu
  rcases h.stays hu with hsame | ⟨ctx, op, u', t, -, hwrites, hu'⟩
  · exact ⟨u, hsame, rfl⟩
  · exact ⟨_, hu', by cases hwrites <;> rfl⟩

theorem Event.itemAfter_fixed (i : Item) : (e.itemAfter db i).fixed = i.fixed := by
  by_cases hedit : e.EditsItem
  · cases e with
    | service ctx op =>
      cases op
      case editItem itemId updates actorId =>
        simp only [Event.itemAfter, Op.itemAfter]
        split
        · simp [Item.fixed, Model.assign, InventoryService.editedItem]
        · rfl
      all_goals exact absurd hedit id
    | portal => exact absurd hedit id
  · obtain ⟨s, o, hafter⟩ : ∃ s o, e.itemAfter db i = { i with status := s, currentOwnerId := o } :=
      Event.itemAfter_eq hedit i
    rw [hafter]
    rfl

theorem Event.TimedStep.evolves (h : e.TimedStep db db') : db.items.Evolves Item.Kept db'.items := by
  intro k i hi
  obtain rfl : i.id = k := Table.get?_key hi
  exact ⟨_, h.stored i hi, Event.itemAfter_fixed i⟩

theorem Request.Kept.of_queued {r r' : Request} (hfixed : r'.fixed = r.fixed) {s : RequestStatus}
    (hstatus : r.status = s) (hqueued : s ∈ _FILED_STATUSES)
    (hrequires : r.requiresMgrApproval = true → r'.requiresMgrApproval = true) : r.Kept r' := by
  have hopen : ∀ s ∈ _FILED_STATUSES, s ∉ _TERMINAL_STATUSES := by decide
  subst hstatus
  exact ⟨hfixed, fun hleft => absurd hqueued hleft, fun hended => absurd hended (hopen _ hqueued), hrequires⟩

theorem Request.Kept.of_ended {r r' : Request} (hfixed : r'.fixed = r.fixed) {s : RequestStatus}
    (hstatus : r'.status = s) (hended : s ∈ _TERMINAL_STATUSES)
    (hrequires : r.requiresMgrApproval = true → r'.requiresMgrApproval = true) : r.Kept r' := by
  have hout : ∀ s ∈ _TERMINAL_STATUSES, s ∉ _FILED_STATUSES := by decide
  subst hstatus
  exact ⟨hfixed, fun _ => hout _ hended, fun _ => hended, hrequires⟩

theorem Event.Rewrites.kept {r r' : Request} {u : Datetime} (h : e.Rewrites db r r') :
    r.Kept { r' with updatedAt := u } := by
  cases h with
  | service h =>
    cases h with
    | updateBookingRange | ship | confirmDelivery | swapped | approveExtension => exact ⟨rfl, id, id, id⟩
    | reject | cancel | completeReturn | markedLost => exact .of_ended rfl rfl (of_decide_eq_true rfl) id
    | assign hstatus => exact .of_queued rfl hstatus (by decide) id
    | escalateToManager hstatus => exact .of_queued rfl hstatus (by decide) fun _ => rfl
  | portal h =>
    cases h with
    | submitRequest hstatus => exact .of_queued rfl hstatus (by decide) id
    | decideRequest hstatus => exact .of_queued rfl hstatus (by decide) id
    | initiateReturn => exact ⟨rfl, id, id, id⟩

theorem Event.RequestsStep.evolves (h : e.RequestsStep db db') :
    db.requests.Evolves Request.Kept db'.requests := by
  intro k r hr
  rcases h.stays hr with hsame | ⟨r', u, hwrites, hr'⟩
  · exact ⟨r, hsame, Std.Refl.refl r⟩
  · exact ⟨_, hr', hwrites.kept⟩

theorem SupportRequest.Kept.of_open {t t' : SupportRequest} (hfixed : t'.fixed = t.fixed)
    (hopen : t.status ≠ .resolved) (hstarted : t'.status ≠ .opened) : t.Kept t' :=
  ⟨hfixed, fun _ => hstarted, fun hresolved => absurd hresolved hopen⟩

theorem Event.TicketsStep.evolves (h : e.TicketsStep db db') :
    db.supportRequests.Evolves SupportRequest.Kept db'.supportRequests := by
  cases h with
  | same hsame => exact hsame ▸ .refl _
  | start he ht hopen hset =>
    refine hset ▸ .set ht (.of_open rfl ?_ (of_decide_eq_true rfl))
    rw [hopen]
    decide
  | resolve he ht hopen hset => exact hset ▸ .set ht (.of_open rfl hopen (of_decide_eq_true rfl))
  | @autoClose _ _ _ itemId _ ts he hts hnodup hothers hclosed =>
    intro k t ht
    by_cases hk : t ∈ ts
    · obtain ⟨now, u, ht'⟩ := hclosed t hk
      obtain rfl : t.id = k := Table.get?_key ht
      exact ⟨_, ht', .of_open rfl ((hts t).mp hk).2.2 (of_decide_eq_true rfl)⟩
    · refine ⟨t, (hothers k fun s hs hid => hk ?_).trans ht, Std.Refl.refl t⟩
      -- a closed ticket with this key would be this one
      have hs' := Table.mem_iff_get?.mp ((hts s).mp hs).1
      exact Option.some.inj (ht.symm.trans ((congrArg _ hid).symm.trans hs')) ▸ hs
  | file he hfresh hopen hinsert => exact hinsert ▸ .insert hfresh

theorem Op.Reviews.kept {op : Op} {x x' : ExtensionRequest} {u : Datetime} (h : op.Reviews ctx x x') :
    x.Kept { x' with updatedAt := u } := by
  have hpending := h.pending
  cases h with
  | approve | reject => exact ⟨rfl, fun hdecided => absurd hpending hdecided, fun _ => rfl⟩

theorem ExtensionRequest.managed_kept {x : ExtensionRequest} {approved : Bool} {note : Option String}
    {now u : Datetime} (hmgr : x.mgrApprovalStatus = .pending) :
    x.Kept { x.managed approved note now with updatedAt := u } := by
  refine ⟨rfl, fun hdecided => ⟨?_, rfl⟩, fun hmanaged => absurd hmgr hmanaged⟩
  cases approved with
  | true => exact hdecided
  | false => exact of_decide_eq_true rfl

theorem Event.ExtensionsStep.evolves (h : e.ExtensionsStep db db') :
    db.extensionRequests.Evolves ExtensionRequest.Kept db'.extensionRequests := by
  cases h with
  | same hsame => exact hsame ▸ .refl _
  | @review _ op x x' u he hx hreview hset =>
    have hid : { x' with updatedAt := u }.id = x.id := by cases hreview <;> rfl
    refine hset ▸ .set (r := x) ?_ hreview.kept
    exact (congrArg _ hid).trans hx
  | manage he hx hmgr hset => exact hset ▸ .set hx (ExtensionRequest.managed_kept hmgr)
  | file he hfresh hpending hinsert => exact hinsert ▸ .insert hfresh

/-- **One event** loses nothing. -/
theorem Event.Commits.historyKept (h : e.Commits db db') : HistoryKept db db' where
  users := h.users.1.evolves
  items := h.timed.evolves
  requests := h.effects.requests.evolves
  supportRequests := h.effects.tickets.evolves
  extensionRequests := h.effects.extensions.evolves
  untouched := h.users.2
  deviceLog := by
    obtain ⟨rows, hlog, -⟩ := h.appends
    exact hlog ▸ List.prefix_append _ _

/-! ### Runs -/

theorem Step.historyKept (h : Step db e db') : HistoryKept db db' := by
  rcases h.cases with rfl | hcommits
  · exact Std.Refl.refl db'
  · exact hcommits.historyKept

theorem HistoryKept.of_run {ok : Db → Event → Prop} (run : Run Step ok db db') : HistoryKept db db' :=
  run.rel fun _ _ _ _ hstep => hstep.historyKept

/-- **What is never rewritten**: every run keeps every row of every table, with the columns that say what it is
about, the ends that are final, and the log as it was written. -/
theorem historyKept_of_run {ok : Db → Event → Prop} (run : Run Step ok db db') : HistoryKept db db' :=
  HistoryKept.of_run run

/-- Laptop 2 is returned, and handed out once more. -/
theorem historyKept_of_run_reassign : HistoryKept Sample.store
    (Sample.after [Sample.call (.completeReturn 2 .available 9), Sample.call (.assign 1 2 0 10 false 9)]) :=
  historyKept_of_run (.step (.step .refl (Sample.call (.completeReturn 2 .available 9)) trivial rfl)
    (Sample.call (.assign 1 2 0 10 false 9)) trivial rfl :
      Run Step (fun _ _ => True) Sample.store (Sample.after [Sample.call (.completeReturn 2 .available 9),
        Sample.call (.assign 1 2 0 10 false 9)]))

end AssetPilot
