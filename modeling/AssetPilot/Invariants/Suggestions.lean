import AssetPilot.Invariants.Answers

/-!
# Suggestions and assignment

The suggestion window and `assign` share the rule about availability, category and overlapping ranges. The
unique index does not look at ranges: a device that is available although somebody has it booked for other
dates is suggested, and cannot be assigned.
-/

namespace AssetPilot

open Relational System Txn
open SQLAlchemyRepository (flushed)
open AssignmentService (suggestedDevices assign assignedRequest handedItem handedLog)

variable {ctx : Ctx} {db db' : Db} {r : Request} {itemId actorId : UUID} {wfh : Bool}

/-- The device is in the suggestion window of the request. -/
def Suggested (ctx : Ctx) (db : Db) (requestId itemId : UUID) : Prop :=
  ∃ rows db', (suggestedDevices requestId).Runs ctx db rows db' ∧ ∃ row ∈ rows, row.item.id = itemId

/-- Assigning the device for the dates that were asked for succeeds. -/
def Assignable (ctx : Ctx) (db : Db) (r : Request) (itemId : UUID) (wfh : Bool) (actorId : UUID) : Prop :=
  ∃ row db', (assign r.id itemId r.requestedFrom r.requestedTo wfh actorId).Runs ctx db row db'

/-- The rule that both sides share. -/
def Db.FreeFor (db : Db) (r : Request) (i : Item) : Prop :=
  i.status = .available ∧ i.categoryId = r.categoryId ∧
    ∀ x ∈ db.requests.rows, ¬ x.Overlaps i.id r.requestedFrom r.requestedTo

/-- Somebody has the device, whatever the dates. -/
def Db.Taken (db : Db) (itemId : UUID) : Prop := ∃ x ∈ db.requests.rows, x.IsBookingFor itemId

theorem suggested_iff (h : db.Coherent) (hr : db.requests.get? r.id = some r) :
    Suggested ctx db r.id itemId ↔ ∃ i, db.items.get? itemId = some i ∧ db.FreeFor r i := by
  have hruns : ∀ rows db', (suggestedDevices r.id).Runs ctx db rows db' ↔
      (ItemRepository.listSuggestedDevices r.categoryId r.requestedFrom r.requestedTo).Runs ctx db rows db' := by
    intro rows db'
    simp only [suggestedDevices, runs_bind, AssignmentService.runs_getRequestOr404]
    constructor
    · rintro ⟨r', _, ⟨hr', rfl⟩, hlist⟩
      obtain rfl := Option.some.inj (hr.symm.trans hr')
      exact hlist
    · intro hlist
      exact ⟨r, db, ⟨hr, rfl⟩, hlist⟩
  constructor
  · rintro ⟨rows, db', hrows, row, hrow, rfl⟩
    obtain ⟨hi, -, hcategory, havailable, hfree⟩ :=
      (ItemRepository.mem_listSuggestedDevices ((hruns rows db').mp hrows)).mp ⟨row, hrow, rfl⟩
    exact ⟨row.item, Table.mem_iff_get?.mp hi, havailable, hcategory, hfree⟩
  · rintro ⟨i, hi, havailable, hcategory, hfree⟩
    obtain rfl : i.id = itemId := Table.get?_key hi
    have hlist := (hruns _ _).mpr rfl
    have hc : db.categories.References i.categoryId :=
      (Item.constraints_iff.mp (h.items i (Table.get?_mem hi))).2.2.1
    obtain ⟨row, hrow, rfl⟩ := (ItemRepository.mem_listSuggestedDevices ((hruns _ _).mp hlist)).mpr
      ⟨Table.get?_mem hi, hc _ rfl, hcategory, havailable, hfree⟩
    exact ⟨_, _, hlist, row, hrow, rfl⟩

theorem overlaps_self (hr : db.requests.get? r.id = some r) (hstatus : r.status = .pendingItApproval)
    {f t : Datetime} : (∀ x ∈ db.requests.rows, x.Overlaps itemId f t → r.id = x.id) ↔
      ∀ x ∈ db.requests.rows, ¬ x.Overlaps itemId f t := by
  constructor
  · intro hself x hx hoverlaps
    have hx' : db.requests.get? x.id = some x := Table.mem_iff_get?.mp hx
    rw [← hself x hx hoverlaps] at hx'
    obtain rfl := Option.some.inj (hr.symm.trans hx')
    exact absurd (hstatus.symm.trans hoverlaps.1.2) (by decide)
  · intro hfree x hx hoverlaps
    exact absurd hoverlaps (hfree x hx)

theorem ne_of_taken (hr : db.requests.get? r.id = some r) (hstatus : r.status = .pendingItApproval)
    {x : Request} (hx : x ∈ db.requests.rows) (hassigned : x.status = .assigned) : x.id ≠ r.id := by
  intro he
  have hx' : db.requests.get? x.id = some x := Table.mem_iff_get?.mp hx
  rw [he] at hx'
  obtain rfl := Option.some.inj (hr.symm.trans hx')
  exact absurd (hstatus.symm.trans hassigned) (by decide)

theorem assignable_iff (h : db.Coherent) (hr : db.requests.get? r.id = some r)
    (hstatus : r.status = .pendingItApproval) (hactor : db.users.References actorId) :
    Assignable ctx db r itemId wfh actorId ↔
      (∃ i, db.items.get? itemId = some i ∧ db.FreeFor r i) ∧ ¬ db.Taken itemId := by
  constructor
  · rintro ⟨row, db', hassign⟩
    obtain ⟨r', hr', -, i, hi, havailable, hcategory, hself, q, rfl, hq, -⟩ :=
      AssignmentService.runs_assign.mp hassign
    obtain rfl := Option.some.inj (hr.symm.trans hr')
    obtain rfl : i.id = itemId := Table.get?_key hi
    refine ⟨⟨i, hi, havailable, hcategory, (overlaps_self hr hstatus).mp hself⟩, ?_⟩
    rintro ⟨x, hx, hdevice, hassigned⟩
    -- the booking is another row, and the unique index has both
    exact (Request.constraints_iff.mp hq).1 x hx (ne_of_taken hr hstatus hx hassigned)
      ⟨rfl, Option.some_ne_none _, hdevice, hassigned⟩
  · rintro ⟨⟨i, hi, havailable, hcategory, hfree⟩, hnot⟩
    obtain rfl : i.id = itemId := Table.get?_key hi
    obtain ⟨-, h₁, h₂, -, h₄, -, h₆, h₇⟩ := Request.constraints_iff.mp (h.requests r (Table.get?_mem hr))
    have hq : Model.constraints db (flushed ctx db
        (assignedRequest r i.id r.requestedFrom r.requestedTo wfh actorId (ctx.clock 0))) = .ok () := by
      refine Request.constraints_iff.mpr ⟨fun x hx _ hclash => ?_, h₁, h₂, Table.references_of_get? hi, h₄,
        hactor, h₆, h₇⟩
      exact hnot ⟨x, hx, hclash.2.2.1, hclash.2.2.2⟩
    generalize hr' : flushed ctx db
      (assignedRequest r i.id r.requestedFrom r.requestedTo wfh actorId (ctx.clock 0)) = r' at hq
    have hi' : Model.constraints (db.setRequest r')
        (flushed ctx (db.setRequest r') (handedItem i r.requesterId)) = .ok () :=
      (h.setRequest hq).handed_ok hi h₁ _
    refine ⟨_, _, AssignmentService.runs_assign.mpr ⟨r, hr, hstatus, i, hi, havailable, hcategory,
      (overlaps_self hr hstatus).mpr hfree, r', hr'.symm, hq, _, rfl, hi', ?_, rfl, rfl⟩⟩
    have hrid : r'.id = r.id := hr' ▸ rfl
    exact ((Db.KeysKept.setRequest _).trans (.setItem _)).deviceLogIntegral ⟨Table.references_of_get? hi,
      hactor, hrid ▸ Table.references_of_get? hr, Table.references_none, Table.references_none,
      Table.references_none⟩

/-- The answer of the unique index. -/
def alreadyAssigned : Failure := conflictException "This device was just assigned to another active request."

/-- A device that somebody has for other dates passes every check of `assign` but the index. -/
theorem assign_refused (hr : db.requests.get? r.id = some r) (hstatus : r.status = .pendingItApproval)
    {i : Item} (hi : db.items.get? itemId = some i) (hfree : db.FreeFor r i) (htaken : db.Taken itemId) :
    (assign r.id itemId r.requestedFrom r.requestedTo wfh actorId).Fails ctx db alreadyAssigned := by
  obtain ⟨havailable, hcategory, hoverlaps⟩ := hfree
  obtain rfl : i.id = itemId := Table.get?_key hi
  have hany : ∀ x ∈ db.requests.rows, x.Overlaps i.id r.requestedFrom r.requestedTo → r.id = x.id :=
    (overlaps_self hr hstatus).mpr hoverlaps
  have hindex : Model.constraints db (flushed ctx db
      (assignedRequest r i.id r.requestedFrom r.requestedTo wfh actorId (ctx.clock 0))) ≠ .ok () := by
    intro hq
    obtain ⟨x, hx, hdevice, hassigned⟩ := htaken
    exact (Request.constraints_iff.mp hq).1 x hx (ne_of_taken hr hstatus hx hassigned)
      ⟨rfl, Option.some_ne_none _, hdevice, hassigned⟩
  have hflush : ∀ e, Model.constraints db (flushed ctx db
      (assignedRequest r i.id r.requestedFrom r.requestedTo wfh actorId (ctx.clock 0))) = .error e →
        integrityErrorAsConflict "This device was just assigned to another active request." e =
          alreadyAssigned := by
    intro e he
    rcases constraintCheck_error.mp he with ⟨hfits, -⟩ | ⟨-, -, rfl⟩
    · exact absurd trivial hfits
    · rfl
  apply fails_of_wp
  simp only [assign, AssignmentService.getRequestOr404, AssignmentService.getItemOr404, wp_bind,
    RequestRepository.wp_getById, ItemRepository.wp_getById, wp_orRaise, wp_raiseIf, wp_utcNow, wp_mapFailure,
    RequestRepository.wp_hasOverlappingAssignedBooking, hr, hi, reduceCtorEq, false_imp_iff, true_and,
    Option.some.injEq, forall_eq', hstatus, havailable, hcategory, ne_eq, not_true_eq_false, not_false_eq_true,
    true_imp_iff]
  refine ⟨fun hoverlapping => ?_, fun _ => ?_⟩
  · obtain ⟨x, hx, hoverlap⟩ := List.any_eq_true.mp hoverlapping
    simp only [decide_eq_true_eq] at hoverlap
    exact absurd (hany x hx hoverlap.1) hoverlap.2
  · exact SQLAlchemyRepository.wp_update.mpr ⟨hflush, fun hq => absurd hq hindex⟩

/-! ### Runs -/

/-- Suggestions and assignment agree but for the devices that are taken for other dates, which are suggested
and refused. -/
structure SuggestionsAgree (ctx : Ctx) (db : Db) (r : Request) (itemId : UUID) (wfh : Bool)
    (actorId : UUID) : Prop where
  suggested : Assignable ctx db r itemId wfh actorId → Suggested ctx db r.id itemId
  assignable : Suggested ctx db r.id itemId → ¬ db.Taken itemId → Assignable ctx db r itemId wfh actorId
  refused : Suggested ctx db r.id itemId → db.Taken itemId →
    (assign r.id itemId r.requestedFrom r.requestedTo wfh actorId).Fails ctx db alreadyAssigned

/-- **Suggestions and assignment** share one rule, and the unique index comes on top of it, in every
reachable state and for every device. -/
theorem suggestionsAgree_of_run {ok : Db → Event → Prop} (h : db.Coherent) (run : Run Step ok db db')
    (hr : db'.requests.get? r.id = some r) (hstatus : r.status = .pendingItApproval)
    (hactor : db'.users.get? actorId ≠ none) : SuggestionsAgree ctx db' r itemId wfh actorId := by
  have hcoherent : db'.Coherent := h.of_run run
  have hrefers : db'.users.References actorId := by
    obtain ⟨u, hu⟩ := Option.ne_none_iff_exists'.mp hactor
    exact Table.references_of_get? hu
  refine ⟨fun hassign => ?_, fun hsuggested htaken => ?_, fun hsuggested htaken => ?_⟩
  · exact (suggested_iff hcoherent hr).mpr ((assignable_iff hcoherent hr hstatus hrefers).mp hassign).1
  · exact (assignable_iff hcoherent hr hstatus hrefers).mpr
      ⟨(suggested_iff hcoherent hr).mp hsuggested, htaken⟩
  · obtain ⟨i, hi, hfree⟩ := (suggested_iff hcoherent hr).mp hsuggested
    exact assign_refused hr hstatus hi hfree htaken

namespace Sample

/-- A request for later dates than those of request 2. -/
def later : Request :=
  { request 3 1 .pendingItApproval none with
    requestedFrom := 20
    requestedTo := 30 }

/-- The request is filed, and laptop 2 is set to available while request 2 has it. -/
def overbooked : Db :=
  after [.portal Sample.ctx (.fileRequest later), call (.changeStatus 2 .available none 9)]

/-- The filed request, as it is stored. -/
def filed : Request :=
  { later with
    createdAt := 5
    updatedAt := 5 }

theorem overbooked_run : Run Step (fun _ e => ∀ ctx op, e = .service ctx op → op.Admitted) store overbooked :=
  .step (.step .refl (.portal Sample.ctx (.fileRequest later)) (fun _ _ he => by cases he) rfl)
    (call (.changeStatus 2 .available none 9)) (fun _ _ he => by cases he; decide) rfl

end Sample

/-- Laptop 1 is suggested for the request and can be assigned to it; laptop 2 is refused. -/
theorem suggestionsAgree_of_run_overbooked :
    SuggestionsAgree Sample.ctx Sample.overbooked Sample.filed 1 false 9 ∧
      SuggestionsAgree Sample.ctx Sample.overbooked Sample.filed 2 false 9 :=
  ⟨suggestionsAgree_of_run (by decide : Sample.store.Coherent) Sample.overbooked_run rfl rfl (by decide),
    suggestionsAgree_of_run (by decide : Sample.store.Coherent) Sample.overbooked_run rfl rfl (by decide)⟩

/-- Laptop 2 is suggested for the dates, and assigning it for them fails. -/
theorem suggested_not_assignable :
    Sample.store.Coherent ∧
      Run Step (fun _ e => ∀ ctx op, e = .service ctx op → op.Admitted) Sample.store Sample.overbooked ∧
      Sample.overbooked.requests.get? 3 = some Sample.filed ∧ Sample.filed.status = .pendingItApproval ∧
      Sample.filed.requestedFrom < Sample.filed.requestedTo ∧
      ¬ (Suggested Sample.ctx Sample.overbooked Sample.filed.id 2 ↔
        Assignable Sample.ctx Sample.overbooked Sample.filed 2 false 9) := by
  refine ⟨by decide, Sample.overbooked_run, rfl, rfl, by decide, fun hiff => ?_⟩
  have hsuggested : Suggested Sample.ctx Sample.overbooked Sample.filed.id 2 :=
    ⟨_, _, rfl, _, List.mem_cons_of_mem _ (List.mem_singleton_self _), rfl⟩
  obtain ⟨row, db', hassign⟩ := hiff.mp hsuggested
  cases hassign

end AssetPilot
