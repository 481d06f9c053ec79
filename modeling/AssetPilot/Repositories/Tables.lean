import AssetPilot.Repositories.Base
import Mathlib.Data.List.Sort

/-!
# The repositories

The concrete repositories of `app/repositories`: the generic operations at each table, and the queries
that the services make beside them. `flushed ctx db x` is the row `x` as the flush leaves it in the
table; it differs from `x` at most in `updated_at`, and in a new text by the blanks that its
column cuts off.
-/

namespace AssetPilot

open Relational Txn
open SQLAlchemyRepository (flushed born)

variable {ctx : Ctx} {db db' : Db} {e : Failure}

/-! ### `item_category` -/

namespace ItemCategoryRepository

def getById : UUID → Service (Option ItemCategory) := SQLAlchemyRepository.getById Db.categories

@[simp] theorem runs_getById {id : UUID} {o : Option ItemCategory} :
    (getById id).Runs ctx db o db' ↔ o = db.categories.get? id ∧ db' = db :=
  SQLAlchemyRepository.runs_getById

end ItemCategoryRepository

/-! ### `user` -/

theorem User.flushed_of_fits {u : User} (h : u.Fits) : ∃ t, flushed ctx db u = { u with updatedAt := t } :=
  ⟨_, by rw [flushed, User.assign_of_fits h]; rfl⟩

theorem User.flushed_of_texts {u x : User} (hu : db.users.get? x.id = some u)
    (htexts : x.name = u.name ∧ x.email = u.email ∧ x.passwordHash = u.passwordHash) :
    flushed ctx db x = { x with updatedAt := if some u = some x then x.updatedAt else ctx.txTime } := by
  have hstored : SQLAlchemyRepository.stored db x = some u := hu
  rw [flushed, hstored, User.assign_of_texts htexts.1 htexts.2.1 htexts.2.2]
  rfl

namespace UserRepository

def _NON_TERMINAL_REQUEST_STATUSES : List RequestStatus :=
  [.requested, .pendingMgrApproval, .pendingItApproval, .assigned]

def getById : UUID → Service (Option User) := SQLAlchemyRepository.getById Db.users

def create : User → Service User := SQLAlchemyRepository.create

def update : User → Service User := SQLAlchemyRepository.update

/-- At most one row: `email` is unique. -/
def getByEmail (email : String) : Service (Option User) := do
  let db ← get
  return db.users.rows.find? fun u => u.email = email

def hasActiveDevicesOrRequests (userId : UUID) : Service Bool := do
  let db ← get
  return db.items.rows.any (fun i => i.currentOwnerId = some userId) ||
    db.requests.rows.any fun r =>
      r.requesterId = userId && r.status ∈ _NON_TERMINAL_REQUEST_STATUSES

@[simp] theorem runs_getById {id : UUID} {o : Option User} :
    (getById id).Runs ctx db o db' ↔ o = db.users.get? id ∧ db' = db :=
  SQLAlchemyRepository.runs_getById

@[simp] theorem fails_getById {id : UUID} : (getById id).Fails ctx db e ↔ False :=
  SQLAlchemyRepository.fails_getById

@[simp] theorem runs_create {u row : User} : (create u).Runs ctx db row db' ↔
    db.users.get? u.id = none ∧ Model.constraints db row = .ok () ∧
      row = born ctx u ∧ db' = db.addUser row :=
  SQLAlchemyRepository.runs_create

@[simp] theorem runs_update {u row : User} : (update u).Runs ctx db row db' ↔
    Model.constraints db row = .ok () ∧ row = flushed ctx db u ∧ db' = db.setUser row :=
  SQLAlchemyRepository.runs_update

@[simp] theorem runs_getByEmail {email : String} {o : Option User} :
    (getByEmail email).Runs ctx db o db' ↔
      o = db.users.rows.find? (fun u => u.email = email) ∧ db' = db := by
  simp [getByEmail, and_comm]

@[simp] theorem runs_hasActiveDevicesOrRequests {userId : UUID} {b : Bool} :
    (hasActiveDevicesOrRequests userId).Runs ctx db b db' ↔
      b = (db.items.rows.any (fun i => i.currentOwnerId = some userId) ||
        db.requests.rows.any fun r =>
          r.requesterId = userId && r.status ∈ _NON_TERMINAL_REQUEST_STATUSES) ∧ db' = db := by
  simp [hasActiveDevicesOrRequests, and_comm]

end UserRepository

/-! ### `item` -/

theorem Item.flushed_eq {db : Db} {x i : Item} (hi : db.items.get? x.id = some i) :
    flushed ctx db x = { (Model.assign (some i) x : Item) with
      updatedAt := if x = i then x.updatedAt else ctx.txTime } := by
  have hstored : SQLAlchemyRepository.stored db x = some i := hi
  by_cases hx : x = i
  · rw [flushed, hstored, if_pos (congrArg some hx.symm), if_pos hx]
    rfl
  · rw [flushed, hstored, if_neg fun h => hx (Option.some.inj h).symm, if_neg hx]
    rfl

theorem Item.flushed_of_fits {i : Item} (h : i.Fits) : ∃ t, flushed ctx db i = { i with updatedAt := t } :=
  ⟨_, by rw [flushed, Item.assign_of_fits h]; rfl⟩

theorem Item.flushed_of_texts {db : Db} {x i : Item} (hi : db.items.get? x.id = some i)
    (htexts : x.name = i.name ∧ x.serialNo = i.serialNo ∧ x.clientName = i.clientName) :
    flushed ctx db x = { x with updatedAt := if x = i then x.updatedAt else ctx.txTime } := by
  rw [Item.flushed_eq hi, Item.assign_of_texts htexts.1 htexts.2.1 htexts.2.2]

namespace ItemRepository

def getById : UUID → Service (Option Item) := SQLAlchemyRepository.getById Db.items

def create : Item → Service Item := SQLAlchemyRepository.create

def update : Item → Service Item := SQLAlchemyRepository.update

/-- At most one row: `serial_no` is unique. -/
def getBySerialNo (serialNo : String) : Service (Option Item) := do
  let db ← get
  return db.items.rows.find? fun i => i.serialNo = serialNo

@[simp] theorem runs_getById {id : UUID} {o : Option Item} :
    (getById id).Runs ctx db o db' ↔ o = db.items.get? id ∧ db' = db :=
  SQLAlchemyRepository.runs_getById

@[simp] theorem fails_getById {id : UUID} : (getById id).Fails ctx db e ↔ False :=
  SQLAlchemyRepository.fails_getById

@[simp] theorem runs_create {i row : Item} : (create i).Runs ctx db row db' ↔
    db.items.get? i.id = none ∧ Model.constraints db row = .ok () ∧
      row = born ctx i ∧ db' = db.addItem row :=
  SQLAlchemyRepository.runs_create

@[simp] theorem runs_update {i row : Item} : (update i).Runs ctx db row db' ↔
    Model.constraints db row = .ok () ∧ row = flushed ctx db i ∧ db' = db.setItem row :=
  SQLAlchemyRepository.runs_update

@[simp] theorem runs_getBySerialNo {serialNo : String} {o : Option Item} :
    (getBySerialNo serialNo).Runs ctx db o db' ↔
      o = db.items.rows.find? (fun i => i.serialNo = serialNo) ∧ db' = db := by
  simp [getBySerialNo, and_comm]

end ItemRepository

/-! ### `request` -/

theorem Request.flushed_eq (ctx : Ctx) (db : Db) (r : Request) : flushed ctx db r =
    { r with updatedAt := if db.requests.get? r.id = some r then r.updatedAt else ctx.txTime } := rfl

/-- `list_bookings_for_item` selects the request together with the requester's name. -/
structure BookingRow where
  request : Request
  requesterName : String
  deriving DecidableEq

/-- The bookings of one device: an `ASSIGNED` request that points at it. -/
def Request.IsBookingFor (itemId : UUID) (r : Request) : Prop :=
  r.assignedItemId = some itemId ∧ r.status = .assigned

instance (itemId : UUID) (r : Request) : Decidable (r.IsBookingFor itemId) :=
  inferInstanceAs (Decidable (_ ∧ _))

/-- The `WHERE` clause of `has_overlapping_assigned_booking`; a comparison with `NULL` selects nothing. -/
def Request.Overlaps (itemId : UUID) (assignedFrom assignedTo : Datetime) (r : Request) : Prop :=
  r.IsBookingFor itemId ∧ (∃ f ∈ r.assignedFrom, f < assignedTo) ∧ ∃ t ∈ r.assignedTo, t > assignedFrom

instance (itemId : UUID) (f t : Datetime) (r : Request) : Decidable (r.Overlaps itemId f t) :=
  inferInstanceAs (Decidable (_ ∧ _ ∧ _))

namespace RequestRepository

def getById : UUID → Service (Option Request) := SQLAlchemyRepository.getById Db.requests

def create : Request → Service Request := SQLAlchemyRepository.create

def update : Request → Service Request := SQLAlchemyRepository.update

/-- `ORDER BY assigned_from`: ascending, `NULL` last. -/
def assignedFromLE (x y : BookingRow) : Prop :=
  match x.request.assignedFrom, y.request.assignedFrom with
  | some a, some b => a ≤ b
  | none, some _ => False
  | _, none => True

instance : DecidableRel assignedFromLE := fun x y => by
  unfold assignedFromLE
  split <;> infer_instance

def listBookingsForItem (itemId : UUID) : Service (List BookingRow) := do
  let db ← get
  let joined := db.requests.rows.filterMap fun r => (db.users.get? r.requesterId).map fun u =>
    (⟨r, u.name⟩ : BookingRow)
  return (joined.filter fun row => row.request.IsBookingFor itemId).insertionSort assignedFromLE

def hasOverlappingAssignedBooking (itemId : UUID) (assignedFrom assignedTo : Datetime)
    (excludeRequestId : Option UUID) : Service Bool := do
  let db ← get
  return db.requests.rows.any fun r =>
    r.Overlaps itemId assignedFrom assignedTo ∧ excludeRequestId ≠ some r.id

@[simp] theorem runs_getById {id : UUID} {o : Option Request} :
    (getById id).Runs ctx db o db' ↔ o = db.requests.get? id ∧ db' = db :=
  SQLAlchemyRepository.runs_getById

@[simp] theorem fails_getById {id : UUID} : (getById id).Fails ctx db e ↔ False :=
  SQLAlchemyRepository.fails_getById

@[simp] theorem runs_create {r row : Request} : (create r).Runs ctx db row db' ↔
    db.requests.get? r.id = none ∧ Model.constraints db row = .ok () ∧
      row = born ctx r ∧ db' = db.addRequest row :=
  SQLAlchemyRepository.runs_create

@[simp] theorem runs_update {r row : Request} : (update r).Runs ctx db row db' ↔
    Model.constraints db row = .ok () ∧ row = flushed ctx db r ∧ db' = db.setRequest row :=
  SQLAlchemyRepository.runs_update

theorem fails_update {r : Request} :
    (update r).Fails ctx db e ↔ Model.constraints db (flushed ctx db r) = .error e :=
  SQLAlchemyRepository.fails_update

@[simp] theorem runs_hasOverlappingAssignedBooking {itemId : UUID} {f t : Datetime}
    {ex : Option UUID} {b : Bool} :
    (hasOverlappingAssignedBooking itemId f t ex).Runs ctx db b db' ↔
      b = db.requests.rows.any (fun r => r.Overlaps itemId f t ∧ ex ≠ some r.id) ∧ db' = db := by
  simp only [hasOverlappingAssignedBooking, runs_bind, runs_get, runs_pure]
  grind

@[simp] theorem fails_hasOverlappingAssignedBooking {itemId : UUID} {f t : Datetime}
    {ex : Option UUID} :
    (hasOverlappingAssignedBooking itemId f t ex).Fails ctx db e ↔ False := by
  simp [hasOverlappingAssignedBooking]

end RequestRepository

/-! ### `item`, with the bookings -/

namespace ItemRepository

/-- `list_suggested_devices` selects the item together with the name of its category and the number of its
bookings. -/
structure SuggestedDeviceRow where
  item : Item
  categoryName : String
  activeBookingsCount : Nat
  deriving DecidableEq

/-- `ORDER BY active_bookings_count, updated_at`. -/
def suggestedLE (x y : SuggestedDeviceRow) : Prop :=
  x.activeBookingsCount < y.activeBookingsCount ∨
    x.activeBookingsCount = y.activeBookingsCount ∧ x.item.updatedAt ≤ y.item.updatedAt

instance : DecidableRel suggestedLE := fun _ _ => inferInstanceAs (Decidable (_ ∨ _))

def listSuggestedDevices (categoryId : UUID) (requestedFrom requestedTo : Datetime) :
    Service (List SuggestedDeviceRow) := do
  let db ← get
  let joined := db.items.rows.filterMap fun i => (db.categories.get? i.categoryId).map fun c =>
    (⟨i, c.name, (db.requests.rows.filter (Request.IsBookingFor i.id)).length⟩ : SuggestedDeviceRow)
  return (joined.filter fun row => row.item.categoryId = categoryId ∧ row.item.status = .available ∧
    ¬ ∃ r ∈ db.requests.rows, r.Overlaps row.item.id requestedFrom requestedTo).insertionSort suggestedLE

theorem mem_listSuggestedDevices {categoryId : UUID} {f t : Datetime} {rows : List SuggestedDeviceRow}
    (h : (listSuggestedDevices categoryId f t).Runs ctx db rows db') {i : Item} :
    (∃ row ∈ rows, row.item = i) ↔ i ∈ db.items.rows ∧ db.categories.get? i.categoryId ≠ none ∧
      i.categoryId = categoryId ∧ i.status = .available ∧ ∀ r ∈ db.requests.rows, ¬ r.Overlaps i.id f t := by
  simp only [listSuggestedDevices, runs_bind, runs_get, runs_pure] at h
  obtain ⟨_, _, ⟨rfl, rfl⟩, rfl, -⟩ := h
  simp only [List.mem_insertionSort, List.mem_filter, List.mem_filterMap, Option.map_eq_some_iff,
    decide_eq_true_eq, not_exists, not_and]
  constructor
  · rintro ⟨_, ⟨⟨j, hj, c, hc, rfl⟩, hcategory, havailable, hfree⟩, rfl⟩
    exact ⟨hj, hc ▸ Option.some_ne_none c, hcategory, havailable, hfree⟩
  · rintro ⟨hi, hc, hcategory, havailable, hfree⟩
    obtain ⟨c, hc⟩ := Option.ne_none_iff_exists'.mp hc
    exact ⟨_, ⟨⟨i, hi, c, hc, rfl⟩, hcategory, havailable, hfree⟩, rfl⟩

end ItemRepository

/-! ### `support_request` -/

theorem SupportRequest.flushed_eq (ctx : Ctx) (db : Db) (t : SupportRequest) :
    flushed ctx db t = { t with
      updatedAt := if db.supportRequests.get? t.id = some t then t.updatedAt else ctx.txTime } := rfl

namespace SupportRequestRepository

def _OPEN_STATUSES : List SupportStatus := [.opened, .inProgress]

def getById : UUID → Service (Option SupportRequest) := SQLAlchemyRepository.getById Db.supportRequests

def update : SupportRequest → Service SupportRequest := SQLAlchemyRepository.update

def listOpenForItem (itemId : UUID) : Service (List SupportRequest) := do
  let db ← get
  return (db.supportRequests.rows.filter fun t => t.itemId = itemId ∧ t.status ∈ _OPEN_STATUSES)
    |>.insertionSort fun x y => x.filedAt ≤ y.filedAt

@[simp] theorem runs_getById {id : UUID} {o : Option SupportRequest} :
    (getById id).Runs ctx db o db' ↔ o = db.supportRequests.get? id ∧ db' = db :=
  SQLAlchemyRepository.runs_getById

@[simp] theorem runs_create {t row : SupportRequest} :
    (SQLAlchemyRepository.create t).Runs ctx db row db' ↔
      db.supportRequests.get? t.id = none ∧ Model.constraints db row = .ok () ∧ row = born ctx t ∧
        db' = db.addSupportRequest row :=
  SQLAlchemyRepository.runs_create

@[simp] theorem runs_update {t row : SupportRequest} : (update t).Runs ctx db row db' ↔
    Model.constraints db row = .ok () ∧ row = flushed ctx db t ∧ db' = db.setSupportRequest row :=
  SQLAlchemyRepository.runs_update

@[simp] theorem runs_listOpenForItem {itemId : UUID} {ts : List SupportRequest} :
    (listOpenForItem itemId).Runs ctx db ts db' ↔
      ts = ((db.supportRequests.rows.filter fun t => t.itemId = itemId ∧ t.status ∈ _OPEN_STATUSES)
        |>.insertionSort fun x y => x.filedAt ≤ y.filedAt) ∧ db' = db := by
  simp [listOpenForItem, and_comm]

end SupportRequestRepository

/-! ### `extension_request` -/

namespace ExtensionRequestRepository

def getById : UUID → Service (Option ExtensionRequest) :=
  SQLAlchemyRepository.getById Db.extensionRequests

def update : ExtensionRequest → Service ExtensionRequest := SQLAlchemyRepository.update

@[simp] theorem runs_getById {id : UUID} {o : Option ExtensionRequest} :
    (getById id).Runs ctx db o db' ↔ o = db.extensionRequests.get? id ∧ db' = db :=
  SQLAlchemyRepository.runs_getById

@[simp] theorem runs_create {x row : ExtensionRequest} :
    (SQLAlchemyRepository.create x).Runs ctx db row db' ↔
      db.extensionRequests.get? x.id = none ∧ Model.constraints db row = .ok () ∧ row = born ctx x ∧
        db' = db.addExtensionRequest row :=
  SQLAlchemyRepository.runs_create

@[simp] theorem runs_update {x row : ExtensionRequest} : (update x).Runs ctx db row db' ↔
    Model.constraints db row = .ok () ∧ row = flushed ctx db x ∧ db' = db.setExtensionRequest row :=
  SQLAlchemyRepository.runs_update

end ExtensionRequestRepository

/-! ### `device_log` -/

namespace DeviceLogRepository

/-- The inherited `create`: `occurred_at` defaults to the database's `now()`. -/
def create (log : DeviceLog) : Service DeviceLog := do
  let ctx ← ask
  let db ← get
  let row := { log with occurredAt := ctx.txTime }
  check (constraintCheck True (db.DeviceLogIntegral row))
  modify fun db => db.appendLog row
  return row

@[simp] theorem runs_create {log row : DeviceLog} : (create log).Runs ctx db row db' ↔
    db.DeviceLogIntegral log ∧ row = { log with occurredAt := ctx.txTime } ∧ db' = db.appendLog row := by
  have hiff : db.DeviceLogIntegral { log with occurredAt := ctx.txTime } ↔ db.DeviceLogIntegral log :=
    Iff.rfl
  simp only [create, runs_bind, runs_ask, runs_get, runs_check, runs_modify, runs_pure,
    constraintCheck_ok]
  grind

theorem fails_create {log : DeviceLog} :
    (create log).Fails ctx db e ↔ ¬ db.DeviceLogIntegral log ∧ e = .integrityError := by
  have hiff : db.DeviceLogIntegral { log with occurredAt := ctx.txTime } ↔ db.DeviceLogIntegral log :=
    Iff.rfl
  simp only [create, fails_bind, runs_ask, runs_get, fails_ask, fails_get, fails_check, runs_check,
    fails_modify, fails_pure, constraintCheck_error, constraintCheck_ok]
  grind

end DeviceLogRepository

end AssetPilot
