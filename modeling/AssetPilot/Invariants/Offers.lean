import AssetPilot.Invariants.Suggestions
import AssetPilot.Listings.Pages
import AssetPilot.Services.Views

/-!
# What the direct assignment offers

The screen of `direct_assign` takes its devices from `client_available` and its people from the dropdown of the
employees. Nobody is offered in vain; of the devices, those are that somebody has booked although they are
available, and the call answers these with a conflict.
-/

namespace AssetPilot

open Relational System Txn Like
open SQLAlchemyRepository (flushed born)
open AssignmentService (clientAvailable directAssign directRequest handedItem)
open DropdownService (listEmployees)
open ItemRepository (ClientAvailableRow)

variable {ctx : Ctx} {db db' : Db} {collation : Collation} {i : Item} {u : User} {itemId employeeId actorId : UUID}
  {f t : Datetime}

/-- The device is on the list, under some filter. -/
def DeviceOffered (collation : Collation) (db : Db) (itemId : UUID) : Prop :=
  ∃ ctx categoryId search order rows, (clientAvailable collation categoryId search order).Runs ctx db rows db ∧
    ∃ row ∈ rows, row.item.id = itemId

/-- The employee is in the dropdown. -/
def EmployeeOffered (collation : Collation) (db : Db) (employeeId : UUID) : Prop :=
  ∃ ctx order options, (listEmployees collation order).Runs ctx db options db ∧ ∃ o ∈ options, o.id = employeeId

/-- Assigning the device directly succeeds. -/
def DirectAssignable (ctx : Ctx) (db : Db) (itemId employeeId : UUID) (f t : Datetime) (actorId : UUID) : Prop :=
  ∃ row db', (directAssign itemId employeeId f t actorId).Runs ctx db row db'

/-! ### The two lists -/

theorem deviceOffered_iff (h : db.Coherent) : DeviceOffered collation db itemId ↔
    ∃ i, db.items.get? itemId = some i ∧ i.ownerType = .client ∧ i.status = .available := by
  constructor
  · rintro ⟨ctx, categoryId, search, order, rows, hruns, row, hrow, rfl⟩
    obtain ⟨rfl, -⟩ := ItemRepository.runs_listClientAvailable.mp hruns
    obtain ⟨i, hi, hselect⟩ := (Query.mem_rows _).mp (order.mem_sort.mp hrow)
    simp only [ItemRepository.clientAvailableQuery, Option.bind_eq_bind, Option.bind_eq_some_iff,
      Option.ite_none_right_eq_some, Option.some.injEq] at hselect
    obtain ⟨c, -, ⟨⟨hclient, havailable⟩, -⟩, rfl⟩ := hselect
    exact ⟨i, Table.mem_iff_get?.mp hi, hclient, havailable⟩
  · rintro ⟨i, hi, hclient, havailable⟩
    obtain rfl : i.id = itemId := Table.get?_key hi
    obtain ⟨c, hc⟩ := Option.ne_none_iff_exists'.mp
      ((Item.constraints_iff.mp (h.items i (Table.get?_mem hi))).2.2.1 i.categoryId rfl)
    refine ⟨Sample.ctx, none, none, OrderBy.stable, _, ItemRepository.runs_listClientAvailable.mpr ⟨rfl, rfl⟩,
      ⟨i, c.name⟩, OrderBy.stable.mem_sort.mpr ((Query.mem_rows _).mpr ⟨i, Table.get?_mem hi, ?_⟩), rfl⟩
    simp [ItemRepository.clientAvailableQuery, hc, hclient, havailable, Selects, Searched]

theorem employeeOffered_iff : EmployeeOffered collation db employeeId ↔
    ∃ u, db.users.get? employeeId = some u ∧ u.role = .employee ∧ u.isActive = true := by
  have hmem : ∀ {order : OrderBy (Asc fun user : User => collation.sortKey user.name)} {u : User},
      u ∈ order.sort (db.users.rows.filter fun u => u.role = .employee ∧ u.isActive = true) ↔
        u ∈ db.users.rows ∧ u.role = .employee ∧ u.isActive = true := by
    intro order u
    rw [order.mem_sort, List.mem_filter, decide_eq_true_eq]
  constructor
  · rintro ⟨ctx, order, options, hruns, o, ho, rfl⟩
    simp only [listEmployees, runs_bind, UserRepository.runs_listActiveByRole, runs_pure] at hruns
    obtain ⟨users, _, ⟨rfl, rfl⟩, rfl, -⟩ := hruns
    obtain ⟨u, hu, rfl⟩ := List.mem_map.mp ho
    obtain ⟨hu, hrole, hactive⟩ := hmem.mp hu
    exact ⟨u, Table.mem_iff_get?.mp hu, hrole, hactive⟩
  · rintro ⟨u, hu, hrole, hactive⟩
    obtain rfl : u.id = employeeId := Table.get?_key hu
    let order : OrderBy (Asc fun user : User => collation.sortKey user.name) := OrderBy.stable
    let users := order.sort (db.users.rows.filter fun u => u.role = .employee ∧ u.isActive = true)
    have hruns : (listEmployees collation order).Runs Sample.ctx db (users.map userSummaryFrom) db := by
      simp [listEmployees, users]
    exact ⟨Sample.ctx, order, _, hruns, userSummaryFrom u,
      List.mem_map.mpr ⟨u, hmem.mpr ⟨Table.get?_mem hu, hrole, hactive⟩, rfl⟩, rfl⟩

/-! ### The call -/

section
variable (h : db.Coherent) (hfresh : db.requests.get? (ctx.uuid4 0) = none) (hi : db.items.get? itemId = some i)
  (hemployee : db.users.get? employeeId = some u) (hactor : db.users.References actorId)
include h hfresh hi hemployee hactor

theorem directRequest_ok_iff : Model.constraints db (born ctx (directRequest (ctx.uuid4 0) itemId i.categoryId
    employeeId f t actorId (ctx.clock 0))) = .ok () ↔ ¬ db.Taken itemId := by
  have hcategory := (Item.constraints_iff.mp (h.items i (Table.get?_mem hi))).2.2.1
  rw [Request.constraints_iff]
  constructor
  · rintro ⟨hapart, -⟩ ⟨x, hx, hdevice, hassigned⟩
    have hne : x.id ≠ ctx.uuid4 0 := Table.get?_eq_none_iff.mp hfresh x hx
    exact hapart x hx hne ⟨rfl, Option.some_ne_none _, hdevice, hassigned⟩
  · intro hfree
    exact ⟨fun x hx _ hclash => hfree ⟨x, hx, hclash.2.2.1, hclash.2.2.2⟩, Table.references_of_get? hemployee,
      hcategory, Table.references_of_get? hi, Table.references_none, hactor, Table.references_none,
      Table.references_none⟩

theorem directAssignable (hclient : i.ownerType = .client) (havailable : i.status = .available)
    (hactive : u.isActive = true) (hfree : ¬ db.Taken itemId) :
    DirectAssignable ctx db itemId employeeId f t actorId := by
  obtain rfl : i.id = itemId := Table.get?_key hi
  have hok := (directRequest_ok_iff (f := f) (t := t) h hfresh hi hemployee hactor).mpr hfree
  generalize hr : born ctx (directRequest (ctx.uuid4 0) i.id i.categoryId employeeId f t actorId
    (ctx.clock 0)) = r at hok
  have hid : r.id = ctx.uuid4 0 := hr ▸ rfl
  have hfresh' : db.requests.get? r.id = none := hid ▸ hfresh
  have hi' : Model.constraints (db.addRequest r)
      (flushed ctx (db.addRequest r) (handedItem i employeeId)) = .ok () :=
    (h.addRequest hfresh' hok).handed_ok hi (Table.references_of_get? hemployee) _
  refine ⟨_, _, AssignmentService.runs_directAssign.mpr ⟨i, hi, hclient, havailable, fun x hx hoverlaps => ?_, u,
    hemployee, hactive, r, hr.symm, hfresh, hok, _, rfl, hi', ?_, rfl, rfl⟩⟩
  · exact hfree ⟨x, hx, hoverlaps.1⟩
  · exact (Db.KeysKept.setItem _).deviceLogIntegral ⟨Table.references_of_get? hi, hactor,
      Table.references_insert_self hfresh', Table.references_none, Table.references_none, Table.references_none⟩

theorem directAssign_refused (hclient : i.ownerType = .client) (havailable : i.status = .available)
    (hactive : u.isActive = true) (htaken : db.Taken itemId) :
    ∃ message, (directAssign itemId employeeId f t actorId).Fails ctx db (conflictException message) := by
  obtain rfl : i.id = itemId := Table.get?_key hi
  have hindex := (directRequest_ok_iff (f := f) (t := t) h hfresh hi hemployee hactor).not.mpr (not_not.mpr htaken)
  have hflush : ∀ e, Model.constraints db (born ctx (directRequest (ctx.uuid4 0) i.id i.categoryId employeeId f t
      actorId (ctx.clock 0))) = .error e →
        integrityErrorAsConflict "This device was just assigned to another active request." e = alreadyAssigned := by
    intro e he
    rcases constraintCheck_error.mp he with ⟨hfits, -⟩ | ⟨-, -, rfl⟩
    · exact absurd trivial hfits
    · rfl
  have key : wp (fun e => ∃ message, e = conflictException message) (fun _ _ => False)
      (directAssign i.id employeeId f t actorId) ctx db := by
    simp only [directAssign, AssignmentService.getItemOr404, wp_bind, ItemRepository.wp_getById, wp_orRaise,
      wp_raiseIf, wp_utcNow, wp_uuid4, wp_mapFailure, RequestRepository.wp_hasOverlappingAssignedBooking,
      UserRepository.wp_getById, hi, hemployee, reduceCtorEq, false_imp_iff, true_and, Option.some.injEq, forall_eq',
      hclient, havailable, hactive, ne_eq, not_true_eq_false, not_false_eq_true, true_imp_iff]
    refine ⟨fun _ => ⟨_, rfl⟩, fun _ => SQLAlchemyRepository.wp_create.mpr ⟨fun _ => ⟨_, rfl⟩, fun _ =>
      ⟨fun e he => ⟨_, hflush e he⟩, fun hok => absurd hok hindex⟩⟩⟩
  obtain ⟨e, ⟨message, rfl⟩, hfails⟩ := exists_fails_of_wp key
  exact ⟨message, hfails⟩

end

/-! ### Runs -/

/-- Who and what is offered can be put together, but for the devices that somebody has; and what can be assigned is
offered. -/
structure OffersAgree (collation : Collation) (ctx : Ctx) (db : Db) (actorId : UUID) : Prop where
  assignable : ∀ {itemId employeeId f t}, DeviceOffered collation db itemId →
    EmployeeOffered collation db employeeId → ¬ db.Taken itemId →
      DirectAssignable ctx db itemId employeeId f t actorId
  refused : ∀ {itemId employeeId f t}, DeviceOffered collation db itemId →
    EmployeeOffered collation db employeeId → db.Taken itemId →
      ∃ message, (directAssign itemId employeeId f t actorId).Fails ctx db (conflictException message)
  offered : ∀ {itemId employeeId f t}, DirectAssignable ctx db itemId employeeId f t actorId →
    DeviceOffered collation db itemId ∧ ¬ db.Taken itemId

/-- **Nothing is offered in vain** for a direct assignment, in every reachable state, but a device that somebody
has already. -/
theorem offersAgree_of_run {ok : Db → Event → Prop} (h : db.Coherent) (run : Run Step ok db db')
    (hactor : db'.users.get? actorId ≠ none) (hfresh : db'.requests.get? (ctx.uuid4 0) = none) :
    OffersAgree collation ctx db' actorId := by
  have hcoherent : db'.Coherent := h.of_run run
  have hrefers : db'.users.References actorId := by
    obtain ⟨u, hu⟩ := Option.ne_none_iff_exists'.mp hactor
    exact Table.references_of_get? hu
  refine ⟨fun {itemId employeeId f t} hdevice hemployee hfree => ?_,
    fun {itemId employeeId f t} hdevice hemployee htaken => ?_, fun {itemId employeeId f t} hassigns => ?_⟩
  · obtain ⟨i, hi, hclient, havailable⟩ := (deviceOffered_iff hcoherent).mp hdevice
    obtain ⟨u, hu, -, hactive⟩ := employeeOffered_iff.mp hemployee
    exact directAssignable hcoherent hfresh hi hu hrefers hclient havailable hactive hfree
  · obtain ⟨i, hi, hclient, havailable⟩ := (deviceOffered_iff hcoherent).mp hdevice
    obtain ⟨u, hu, -, hactive⟩ := employeeOffered_iff.mp hemployee
    exact directAssign_refused hcoherent hfresh hi hu hrefers hclient havailable hactive htaken
  · obtain ⟨row, db'', hruns⟩ := hassigns
    obtain ⟨i, hi, hclient, havailable, -, u, hu, -, r, rfl, -, hok, -⟩ :=
      AssignmentService.runs_directAssign.mp hruns
    exact ⟨(deviceOffered_iff hcoherent).mpr ⟨i, hi, hclient, havailable⟩,
      (directRequest_ok_iff hcoherent hfresh hi hu hrefers).mp hok⟩

/-- A client's laptop is new, and employee 1 can have it. -/
theorem offersAgree_of_run_new :
    let db' := (Sample.call (.createItem "Laptop" "C-1" 1 .client (some "Acme") none 9)).exec Sample.store
    DirectAssignable Sample.ctx db' 100 1 0 10 9 := by
  intro db'
  have hcoherent : db'.Coherent := by decide
  have hfree : ¬ db'.Taken 100 := by
    unfold Db.Taken
    decide
  have key : OffersAgree Sample.collation Sample.ctx db' 9 :=
    offersAgree_of_run (by decide : Sample.store.Coherent)
      (.step .refl (Sample.call (.createItem "Laptop" "C-1" 1 .client (some "Acme") none 9)) trivial rfl :
        Run Step (fun _ _ => True) _ db') (by decide) (by decide)
  exact key.assignable ((deviceOffered_iff hcoherent).mpr ⟨_, rfl, rfl, rfl⟩)
    (employeeOffered_iff.mpr ⟨_, rfl, rfl, rfl⟩) hfree

end AssetPilot
