import AssetPilot.Core.Session
import AssetPilot.Lib.Varchar

/-!
# Repositories: constraints and the generic implementation

`SQLAlchemyRepository` (`app/repositories/base.py`) once for all mapped classes. A flush that inserts or
updates a row is accepted when the row satisfies the constraints of its table, as the migration
`19fa64831348` declares them; otherwise the driver's `IntegrityError` (or `DataError`, for a text that its
`varchar(255)` column does not hold) escapes from the flush. What such a column is set to loses the blanks
beyond its length, and the `refresh` after the flush shows the row as it is stored.
-/

namespace AssetPilot

open Relational Txn

/-! ### Constraints -/

/-- The text is not too long for a `varchar(255)` column. -/
abbrev FitsVarchar (s : String) : Prop := Varchar.Fits 255 s

/-- The texts that a `varchar(255)` column holds. -/
def IsVarchar (s : String) : Prop := Varchar.NulFree s ∧ FitsVarchar s

instance (s : String) : Decidable (IsVarchar s) := inferInstanceAs (Decidable (_ ∧ _))

/-- What a `varchar(255)` column is set to. -/
def varchar (s : String) : String := Varchar.assign 255 s

theorem varchar_of_fits {s : String} (h : FitsVarchar s) : varchar s = s := Varchar.assign_of_fits h

@[simp] theorem varchar_varchar {s : String} : varchar (varchar s) = varchar s := Varchar.assign_assign

/-- A `varchar(255)` column can be set to the text. -/
def Storable (s : String) : Prop := IsVarchar (varchar s)

instance (s : String) : Decidable (Storable s) := inferInstanceAs (Decidable (IsVarchar _))

/-- The text has no `NUL`, and nothing but blanks after its 255th character. -/
theorem storable_iff {s : String} : Storable s ↔ Varchar.NulFree s ∧ ∀ c ∈ s.toList.drop 255, c = ' ' := by
  have hfits : FitsVarchar (varchar s) ↔ ∀ c ∈ s.toList.drop 255, c = ' ' := Varchar.fits_assign_iff
  rw [Storable, IsVarchar, ← hfits]
  exact and_congr_left Varchar.nulFree_assign_iff

theorem IsVarchar.storable {s : String} (h : IsVarchar s) : Storable s := by
  rw [Storable, varchar_of_fits h.2]
  exact h

/-- An `INSERT` sets every column, an `UPDATE` those in which the row differs from the stored one. -/
def varcharColumn (old : Option String) (new : String) : String := if old = some new then new else varchar new

/-- `varcharColumn` for a column that may be null. -/
def varcharColumn? (old : Option (Option String)) (new : Option String) : Option String :=
  if old = some new then new else new.map varchar

@[simp] theorem varcharColumn_same {s : String} : varcharColumn (some s) s = s := if_pos rfl

@[simp] theorem varcharColumn_none {s : String} : varcharColumn none s = varchar s := if_neg nofun

theorem varcharColumn_of_fits {old : Option String} {s : String} (h : FitsVarchar s) : varcharColumn old s = s := by
  rw [varcharColumn, varchar_of_fits h, ite_self]

theorem varcharColumn_of_stored {old s : String} (h : FitsVarchar old) : varcharColumn (some old) s = varchar s := by
  unfold varcharColumn
  split_ifs with hsame
  · exact (varchar_of_fits (Option.some.inj hsame ▸ h)).symm
  · rfl

theorem varcharColumn?_of_stored {old s : Option String} (h : ∀ x ∈ old, FitsVarchar x) :
    varcharColumn? (some old) s = s.map varchar := by
  unfold varcharColumn?
  split_ifs with hsame
  · obtain rfl := Option.some.inj hsame
    cases old with
    | none => rfl
    | some x => exact congrArg some (varchar_of_fits (h x rfl)).symm
  · rfl

theorem varchar_eq_empty_iff {s : String} : varchar s = "" ↔ s = "" := Varchar.assign_eq_empty_iff (by decide)

@[simp] theorem varcharColumn?_same {s : Option String} : varcharColumn? (some s) s = s := if_pos rfl

@[simp] theorem varcharColumn?_none {s : Option String} : varcharColumn? none s = s.map varchar := if_neg nofun

theorem varcharColumn?_of_fits {old : Option (Option String)} {s : Option String} (h : ∀ x ∈ s, FitsVarchar x) :
    varcharColumn? old s = s := by
  cases s with
  | none => exact ite_self _
  | some s => rw [varcharColumn?, Option.map_some, varchar_of_fits (h s rfl), ite_self]

/-- The texts of a user fit their columns. -/
def User.Fits (u : User) : Prop := IsVarchar u.name ∧ IsVarchar u.email ∧ ∀ h ∈ u.passwordHash, IsVarchar h

instance (u : User) : Decidable u.Fits := inferInstanceAs (Decidable (_ ∧ _))

/-- The texts of an item fit their columns. -/
def Item.Fits (i : Item) : Prop := IsVarchar i.name ∧ IsVarchar i.serialNo ∧ ∀ c ∈ i.clientName, IsVarchar c

instance (i : Item) : Decidable i.Fits := inferInstanceAs (Decidable (_ ∧ _))

/-- First the column types, then the keys and indexes of the table. -/
def constraintCheck (fits integral : Prop) [Decidable fits] [Decidable integral] : Except Failure Unit :=
  if ¬ fits then .error .dataError else if ¬ integral then .error .integrityError else .ok ()

theorem constraintCheck_ok {fits integral : Prop} [Decidable fits] [Decidable integral] :
    constraintCheck fits integral = .ok () ↔ fits ∧ integral := by
  unfold constraintCheck
  split_ifs with h₁ h₂ <;> simp_all

theorem constraintCheck_error {fits integral : Prop} [Decidable fits] [Decidable integral] {e : Failure} :
    constraintCheck fits integral = .error e ↔
      (¬ fits ∧ e = .dataError) ∨ (fits ∧ ¬ integral ∧ e = .integrityError) := by
  unfold constraintCheck
  split_ifs with h₁ h₂ <;> simp_all [eq_comm]

namespace Db

/-- Keys and indexes of `user`: unique email, `manager_id`. -/
def UserIntegral (db : Db) (u : User) : Prop :=
  (∀ x ∈ db.users.rows, x.id ≠ u.id → x.email ≠ u.email) ∧ db.users.References u.managerId

/-- Keys and indexes of `item`: unique serial number and QR token, `category_id`, `current_owner_id`. -/
def ItemIntegral (db : Db) (i : Item) : Prop :=
  (∀ x ∈ db.items.rows, x.id ≠ i.id → x.serialNo ≠ i.serialNo ∧ x.qrCodeToken ≠ i.qrCodeToken) ∧
    db.categories.References i.categoryId ∧ db.users.References i.currentOwnerId

/-- The predicate of the partial index: `status NOT IN ('rejected', 'completed', 'cancelled')`. -/
def activeStatus (s : RequestStatus) : Bool :=
  s ∉ [RequestStatus.rejected, .completed, .cancelled]

/-- The rows that `uq_one_active_request_per_item` forbids beside each other: both active, with the
same non-null `assigned_item_id` and the same `status`. -/
def clashes (x r : Request) : Prop :=
  activeStatus r.status ∧ r.assignedItemId ≠ none ∧ x.assignedItemId = r.assignedItemId ∧
    x.status = r.status

instance (x r : Request) : Decidable (clashes x r) := inferInstanceAs (Decidable (_ ∧ _ ∧ _ ∧ _))

/-- Keys and indexes of `request`: `uq_one_active_request_per_item` and the seven foreign keys. -/
def RequestIntegral (db : Db) (r : Request) : Prop :=
  (∀ x ∈ db.requests.rows, x.id ≠ r.id → ¬ clashes x r) ∧
    db.users.References r.requesterId ∧ db.categories.References r.categoryId ∧
    db.items.References r.assignedItemId ∧ db.users.References r.managerId ∧
    db.users.References r.itDecidedBy ∧ db.users.References r.cancelledBy ∧
    db.users.References r.completedBy

/-- Keys of `support_request`. -/
def SupportRequestIntegral (db : Db) (t : SupportRequest) : Prop :=
  db.items.References t.itemId ∧ db.users.References t.requesterId ∧
    db.requests.References t.requestId ∧ db.items.References t.swappedToItemId ∧
    db.users.References t.resolvedBy

/-- Keys of `extension_request`. -/
def ExtensionRequestIntegral (db : Db) (x : ExtensionRequest) : Prop :=
  db.requests.References x.originalRequestId ∧ db.users.References x.requesterId ∧
    db.users.References x.managerId ∧ db.users.References x.itDecidedBy

/-- Keys of `device_log`. -/
def DeviceLogIntegral (db : Db) (l : DeviceLog) : Prop :=
  db.items.References l.itemId ∧ db.users.References l.actorId ∧ db.requests.References l.requestId ∧
    db.supportRequests.References l.supportRequestId ∧
    db.extensionRequests.References l.extensionRequestId ∧
    db.handoverRequests.References l.handoverRequestId

variable (db : Db)

instance (u : User) : Decidable (db.UserIntegral u) := inferInstanceAs (Decidable (_ ∧ _))
instance (i : Item) : Decidable (db.ItemIntegral i) := inferInstanceAs (Decidable (_ ∧ _))
instance (r : Request) : Decidable (db.RequestIntegral r) := inferInstanceAs (Decidable (_ ∧ _))
instance (t : SupportRequest) : Decidable (db.SupportRequestIntegral t) :=
  inferInstanceAs (Decidable (_ ∧ _))
instance (x : ExtensionRequest) : Decidable (db.ExtensionRequestIntegral x) :=
  inferInstanceAs (Decidable (_ ∧ _))
instance (l : DeviceLog) : Decidable (db.DeviceLogIntegral l) := inferInstanceAs (Decidable (_ ∧ _))

/-! ### Writing one row -/

def setUser (u : User) : Db := { db with users := db.users.set u }
def addUser (u : User) : Db := { db with users := db.users.insert u }
def setItem (i : Item) : Db := { db with items := db.items.set i }
def addItem (i : Item) : Db := { db with items := db.items.insert i }
def setRequest (r : Request) : Db := { db with requests := db.requests.set r }
def addRequest (r : Request) : Db := { db with requests := db.requests.insert r }
def setSupportRequest (t : SupportRequest) : Db :=
  { db with supportRequests := db.supportRequests.set t }
def addSupportRequest (t : SupportRequest) : Db :=
  { db with supportRequests := db.supportRequests.insert t }
def setExtensionRequest (x : ExtensionRequest) : Db :=
  { db with extensionRequests := db.extensionRequests.set x }
def addExtensionRequest (x : ExtensionRequest) : Db :=
  { db with extensionRequests := db.extensionRequests.insert x }
def appendLog (l : DeviceLog) : Db := { db with deviceLog := db.deviceLog ++ [l] }

end Db

/-- A mapped class: its table, what the columns make of a row that is written over the stored one, the
constraints on a written row, and its time columns. -/
class Model (α : Type) [Keyed α UUID] where
  table : Db → Table α
  setRow : Db → α → Db
  addRow : Db → α → Db
  assign : Option α → α → α := fun _ entity => entity
  constraints : Db → α → Except Failure Unit
  updatedAt : α → Datetime
  touch : Datetime → α → α
  born : Datetime → α → α

instance : Model User where
  table := Db.users
  setRow := Db.setUser
  addRow := Db.addUser
  assign old u :=
    { u with
      name := varcharColumn (old.map User.name) u.name
      email := varcharColumn (old.map User.email) u.email
      passwordHash := varcharColumn? (old.map User.passwordHash) u.passwordHash }
  constraints db u :=
    constraintCheck u.Fits (u.passwordHash ≠ none ∧ db.UserIntegral u)
  updatedAt := User.updatedAt
  touch now u := { u with updatedAt := now }
  born now u := { u with createdAt := now, updatedAt := now }

instance : Model Item where
  table := Db.items
  setRow := Db.setItem
  addRow := Db.addItem
  assign old i :=
    { i with
      name := varcharColumn (old.map Item.name) i.name
      serialNo := varcharColumn (old.map Item.serialNo) i.serialNo
      clientName := varcharColumn? (old.map Item.clientName) i.clientName }
  constraints db i :=
    constraintCheck i.Fits (db.ItemIntegral i)
  updatedAt := Item.updatedAt
  touch now i := { i with updatedAt := now }
  born now i := { i with createdAt := now, updatedAt := now }

instance : Model Request where
  table := Db.requests
  setRow := Db.setRequest
  addRow := Db.addRequest
  constraints db r := constraintCheck True (db.RequestIntegral r)
  updatedAt := Request.updatedAt
  touch now r := { r with updatedAt := now }
  born now r := { r with createdAt := now, updatedAt := now }

instance : Model SupportRequest where
  table := Db.supportRequests
  setRow := Db.setSupportRequest
  addRow := Db.addSupportRequest
  constraints db t := constraintCheck True (db.SupportRequestIntegral t)
  updatedAt := SupportRequest.updatedAt
  touch now t := { t with updatedAt := now }
  born now t := { t with createdAt := now, updatedAt := now, filedAt := now }

instance : Model ExtensionRequest where
  table := Db.extensionRequests
  setRow := Db.setExtensionRequest
  addRow := Db.addExtensionRequest
  constraints db x := constraintCheck True (db.ExtensionRequestIntegral x)
  updatedAt := ExtensionRequest.updatedAt
  touch now x := { x with updatedAt := now }
  born now x := { x with createdAt := now, updatedAt := now }

namespace Item

variable {old : Option Item} {i : Item}

@[simp] theorem assign_id : (Model.assign old i).id = i.id := rfl
@[simp] theorem assign_categoryId : (Model.assign old i).categoryId = i.categoryId := rfl
@[simp] theorem assign_ownerType : (Model.assign old i).ownerType = i.ownerType := rfl
@[simp] theorem assign_clientName :
    (Model.assign old i).clientName = varcharColumn? (old.map Item.clientName) i.clientName := rfl
@[simp] theorem assign_status : (Model.assign old i).status = i.status := rfl
@[simp] theorem assign_currentOwnerId : (Model.assign old i).currentOwnerId = i.currentOwnerId := rfl
@[simp] theorem assign_qrCodeToken : (Model.assign old i).qrCodeToken = i.qrCodeToken := rfl
@[simp] theorem assign_updatedAt : (Model.assign old i).updatedAt = i.updatedAt := rfl

end Item

theorem Item.assign_of_texts {i x : Item} (hname : x.name = i.name) (hserial : x.serialNo = i.serialNo)
    (hclient : x.clientName = i.clientName) : Model.assign (some i) x = x := by
  simp only [Model.assign, Option.map_some, ← hname, ← hserial, ← hclient, varcharColumn_same, varcharColumn?_same]

theorem Item.assign_of_fits {old : Option Item} {i : Item} (h : i.Fits) : Model.assign old i = i := by
  obtain ⟨hname, hserial, hclient⟩ := h
  simp only [Model.assign, varcharColumn_of_fits hname.2, varcharColumn_of_fits hserial.2,
    varcharColumn?_of_fits fun c hc => (hclient c hc).2]

theorem User.assign_of_texts {u x : User} (hname : x.name = u.name) (hemail : x.email = u.email)
    (hhash : x.passwordHash = u.passwordHash) : Model.assign (some u) x = x := by
  simp only [Model.assign, Option.map_some, ← hname, ← hemail, ← hhash, varcharColumn_same, varcharColumn?_same]

theorem User.assign_of_fits {old : Option User} {u : User} (h : u.Fits) : Model.assign old u = u := by
  obtain ⟨hname, hemail, hhash⟩ := h
  simp only [Model.assign, varcharColumn_of_fits hname.2, varcharColumn_of_fits hemail.2,
    varcharColumn?_of_fits fun c hc => (hhash c hc).2]

namespace SQLAlchemyRepository

section
variable {α : Type} [Keyed α UUID]

/-- `session.get`. -/
def getById (table : Db → Table α) (id : UUID) : Service (Option α) := do
  let db ← get
  return (table db).get? id

variable {ctx : Ctx} {db db' : Db} {e : Failure} {table : Db → Table α} {id : UUID}

theorem runs_getById {o : Option α} :
    (getById table id).Runs ctx db o db' ↔ o = (table db).get? id ∧ db' = db := by
  simp [getById, and_comm]

theorem fails_getById : (getById table id).Fails ctx db e ↔ False := by
  simp [getById]

end

variable {α : Type} [Keyed α UUID] [Model α]

/-- The stored row with the key of `entity`. -/
def stored (db : Db) (entity : α) : Option α := (Model.table db : Table α).get? (Keyed.key entity)

/-- The row as the first flush leaves it: the server defaults stamp it with `now()`. -/
def born (ctx : Ctx) (entity : α) : α := Model.born ctx.txTime (Model.assign none entity)

theorem born_user {ctx : Ctx} {u : User} : born ctx u =
    { u with
      name := varchar u.name
      email := varchar u.email
      passwordHash := u.passwordHash.map varchar
      createdAt := ctx.txTime
      updatedAt := ctx.txTime } := by
  simp only [born, Model.born, Model.assign, Option.map_none, varcharColumn_none, varcharColumn?_none]

theorem born_item {ctx : Ctx} {i : Item} : born ctx i =
    { i with
      name := varchar i.name
      serialNo := varchar i.serialNo
      clientName := i.clientName.map varchar
      createdAt := ctx.txTime
      updatedAt := ctx.txTime } := by
  simp only [born, Model.born, Model.assign, Option.map_none, varcharColumn_none, varcharColumn?_none]

theorem fits_born_user {ctx : Ctx} {u : User} : (born ctx u).Fits ↔
    Storable u.name ∧ Storable u.email ∧ ∀ h ∈ u.passwordHash, Storable h := by
  simp only [born_user, User.Fits, Storable, Option.mem_def, Option.map_eq_some_iff, forall_exists_index, and_imp,
    forall_apply_eq_imp_iff₂]

theorem fits_born_item {ctx : Ctx} {i : Item} : (born ctx i).Fits ↔
    Storable i.name ∧ Storable i.serialNo ∧ ∀ c ∈ i.clientName, Storable c := by
  simp only [born_item, Item.Fits, Storable, Option.mem_def, Option.map_eq_some_iff, forall_exists_index, and_imp,
    forall_apply_eq_imp_iff₂]

@[simp] theorem born_name {ctx : Ctx} {u : User} : (born ctx u).name = varchar u.name := varcharColumn_none

@[simp] theorem born_email {ctx : Ctx} {u : User} : (born ctx u).email = varchar u.email := varcharColumn_none

@[simp] theorem born_passwordHash {ctx : Ctx} {u : User} : (born ctx u).passwordHash = u.passwordHash.map varchar :=
  varcharColumn?_none

@[simp] theorem born_serialNo {ctx : Ctx} {i : Item} : (born ctx i).serialNo = varchar i.serialNo :=
  varcharColumn_none

/-- `add`, `flush`, `refresh`. -/
def create (entity : α) : Service α := do
  let ctx ← ask
  let db ← get
  let row := born ctx entity
  raiseIf (stored db row ≠ none) .integrityError
  check (Model.constraints db row)
  modify fun db => Model.addRow db row
  return row

variable [DecidableEq α]

/-- The row as the flush leaves it: the unit of work emits an `UPDATE`, which moves `updated_at` to
`now()`, only for a row that differs from the stored one. -/
def flushed (ctx : Ctx) (db : Db) (entity : α) : α :=
  Model.touch (if stored db entity = some entity then Model.updatedAt entity else ctx.txTime)
    (Model.assign (stored db entity) entity)

theorem flushed_of_stored {ctx : Ctx} {db : Db} {entity : α} (h : stored db entity = some entity)
    (hassign : Model.assign (some entity) entity = entity)
    (htouch : Model.touch (Model.updatedAt entity) entity = entity) : flushed ctx db entity = entity := by
  rw [flushed, if_pos h, h, hassign, htouch]

/-- `flush`, `refresh`. A row that does not differ from the stored one passes the constraints, as the
stored one does. -/
def update (entity : α) : Service α := do
  let ctx ← ask
  let db ← get
  let row := flushed ctx db entity
  check (Model.constraints db row)
  modify fun db => Model.setRow db row
  return row

variable {ctx : Ctx} {db db' : Db} {e : Failure} {entity row : α}

omit [DecidableEq α] in
theorem runs_create : (create entity).Runs ctx db row db' ↔
    stored db (born ctx entity) = none ∧ Model.constraints db row = .ok () ∧
      row = born ctx entity ∧ db' = Model.addRow db row := by
  simp only [create, runs_bind, runs_ask, runs_get, runs_raiseIf, runs_check, runs_modify, runs_pure]
  grind

theorem runs_update : (update entity).Runs ctx db row db' ↔
    Model.constraints db row = .ok () ∧ row = flushed ctx db entity ∧ db' = Model.setRow db row := by
  simp only [update, runs_bind, runs_ask, runs_get, runs_check, runs_modify, runs_pure]
  grind

omit [DecidableEq α] in
theorem fails_create : (create entity).Fails ctx db e ↔
    (stored db (born ctx entity) ≠ none ∧ e = .integrityError) ∨
      (stored db (born ctx entity) = none ∧
        Model.constraints db (born ctx entity) = .error e) := by
  simp only [create, fails_bind, runs_ask, runs_get, fails_ask, fails_get, fails_raiseIf, runs_raiseIf,
    fails_check, runs_check, fails_modify, fails_pure]
  grind

theorem fails_update : (update entity).Fails ctx db e ↔
    Model.constraints db (flushed ctx db entity) = .error e := by
  simp only [update, fails_bind, runs_ask, runs_get, fails_ask, fails_get, fails_check, runs_check,
    fails_modify, fails_pure]
  grind

end SQLAlchemyRepository

end AssetPilot
