import AssetPilot.Services.DeviceLogService

/-!
# Inventory

The three writing operations of `app/services/inventory_service.py`: create, edit, and the manual status
override.
-/

namespace AssetPilot

open Txn
open SQLAlchemyRepository (flushed born)
open DeviceLogService (AppendArgs append)

namespace InventoryService

/-- `_STATUS_EVENT_MAP.get(status, STATUS_CHANGED)`. -/
def _STATUS_EVENT_MAP : DeviceStatus → DeviceLogEvent
  | .lost => .markedLost
  | .retired => .retired
  | .returnedToClient => .returnedToClient
  | _ => .statusChanged

def getItemOr404 (itemId : UUID) : Service Item := do
  let item ← ItemRepository.getById itemId
  orRaise item (notFoundException "Item not found.")

/-- The item that `create_item` inserts; its `id` and `qr_code_token` come from `uuid4`. -/
def newItem (id qrCodeToken : UUID) (name serialNo : String) (categoryId : UUID) (ownerType : OwnerType)
    (clientName : Option String) (purchaseDate : Option Date) : Item where
  id := id
  name := name
  serialNo := serialNo
  categoryId := categoryId
  ownerType := ownerType
  clientName := if ownerType = .client then clientName else none
  status := .available
  purchaseDate := purchaseDate
  qrCodeToken := qrCodeToken

/-- The log entry of a new device. -/
def createdLog (itemId actorId : UUID) : AppendArgs where
  itemId := itemId
  eventType := .deviceCreated
  actorId := some actorId
  actorRole := .itAdmin
  toValue := some DeviceStatus.available.value

def createItem (name serialNo : String) (categoryId : UUID) (ownerType : OwnerType)
    (clientName : Option String) (purchaseDate : Option Date) (actorId : UUID) : Service Item := do
  let category ← ItemCategoryRepository.getById categoryId
  raiseIf (category = none) (notFoundException "Item category not found.")
  let existing ← ItemRepository.getBySerialNo serialNo
  raiseIf (existing ≠ none)
    (conflictException s!"An item with serial number '{serialNo}' already exists.")
  let id ← uuid4 0
  let qrCodeToken ← uuid4 1
  let created ← ItemRepository.create
    (newItem id qrCodeToken name serialNo categoryId ownerType clientName purchaseDate)
  let _ ← append (createdLog created.id actorId)
  return created

/-- The `updates` mapping that `UpdateItemRequest` admits: any subset of the four editable fields, where
`name` and `category_id` cannot be null. -/
structure ItemUpdates where
  name : Option String := none
  categoryId : Option UUID := none
  clientName : Option (Option String) := none
  purchaseDate : Option (Option Date) := none

/-- One turn of the loop over `_EDITABLE_FIELDS`: the entry of `changes` for a field that is in
`updates` with another value than the item's. -/
def fieldChange {β : Type} [DecidableEq β] (field : String) (jsonable : β → Option String) (oldValue : β)
    (newValue : Option β) : List (String × FieldChange) :=
  match newValue with
  | none => []
  | some v => if v = oldValue then [] else [(field, ⟨jsonable oldValue, jsonable v⟩)]

/-- The `changes` dictionary of an edit. -/
def itemChanges (item : Item) (updates : ItemUpdates) : List (String × FieldChange) :=
  fieldChange "name" some item.name updates.name ++
    fieldChange "category_id" (fun c => some c.str) item.categoryId updates.categoryId ++
    fieldChange "client_name" id item.clientName updates.clientName ++
    fieldChange "purchase_date" (Option.map Date.str) item.purchaseDate updates.purchaseDate

/-- The item with the updates written over it. -/
def editedItem (item : Item) (updates : ItemUpdates) : Item :=
  { item with
    name := updates.name.getD item.name
    categoryId := updates.categoryId.getD item.categoryId
    clientName := updates.clientName.getD item.clientName
    purchaseDate := updates.purchaseDate.getD item.purchaseDate }

/-- The log entry of an edit. -/
def editedLog (itemId actorId : UUID) (changes : List (String × FieldChange)) : AppendArgs where
  itemId := itemId
  eventType := .deviceEdited
  actorId := some actorId
  actorRole := .itAdmin
  metadata := some [("changes", .changes changes)]

/-- `get_by_id` for a category that is named, `None` standing for one that is not. -/
def checkCategory (categoryId : Option UUID) : Service Unit :=
  match categoryId with
  | none => return ()
  | some c => do
    let category ← ItemCategoryRepository.getById c
    raiseIf (category = none) (notFoundException "Item category not found.")

/-- The log is written only for an edit that changed something. -/
def logChanges (itemId actorId : UUID) (changes : List (String × FieldChange)) : Service Unit :=
  match changes with
  | [] => return ()
  | _ :: _ => do
    let _ ← append (editedLog itemId actorId changes)

def editItem (itemId : UUID) (updates : ItemUpdates) (actorId : UUID) : Service Item := do
  let item ← getItemOr404 itemId
  checkCategory updates.categoryId
  let updated ← ItemRepository.update (editedItem item updates)
  logChanges updated.id actorId (itemChanges item updates)
  return updated

/-- The log entry of a manual status change. -/
def statusLog (itemId : UUID) (status fromStatus : DeviceStatus) (itNote : Option String)
    (actorId : UUID) : AppendArgs where
  itemId := itemId
  eventType := _STATUS_EVENT_MAP status
  actorId := some actorId
  actorRole := .itAdmin
  fromValue := some fromStatus.value
  toValue := some status.value
  note := itNote

def changeStatus (itemId : UUID) (status : DeviceStatus) (itNote : Option String) (actorId : UUID) :
    Service Item := do
  let item ← getItemOr404 itemId
  let updated ← ItemRepository.update (item.setStatus status)
  let _ ← append (statusLog updated.id status item.status itNote actorId)
  return updated

/-! ### Inversion -/

variable {ctx : Ctx} {db db' : Db} {itemId actorId : UUID} {row : Item} {u : Unit}

@[simp] theorem runs_getItemOr404 {id : UUID} {i : Item} :
    (getItemOr404 id).Runs ctx db i db' ↔ db.items.get? id = some i ∧ db' = db := by
  simp [getItemOr404, and_comm, eq_comm]

@[simp] theorem newItem_id {id qr categoryId : UUID} {name serialNo : String} {ownerType : OwnerType}
    {clientName : Option String} {date : Option Date} :
    (newItem id qr name serialNo categoryId ownerType clientName date).id = id := rfl

theorem runs_createItem {name serialNo : String} {categoryId : UUID} {ownerType : OwnerType}
    {clientName : Option String} {date : Option Date} :
    (createItem name serialNo categoryId ownerType clientName date actorId).Runs ctx db row db' ↔
    db.categories.get? categoryId ≠ none ∧
      db.items.rows.find? (fun i => i.serialNo = serialNo) = none ∧
      db.items.get? (ctx.uuid4 0) = none ∧
      ∃ item', item' = born ctx (newItem (ctx.uuid4 0) (ctx.uuid4 1) name serialNo categoryId ownerType
          clientName date) ∧
        Model.constraints db item' = .ok () ∧
      (db.addItem item').DeviceLogIntegral (createdLog item'.id actorId).row ∧
      row = item' ∧ db' = (db.addItem item').appendLog ((createdLog item'.id actorId).written ctx) := by
  simp [createItem, and_assoc]

@[simp] theorem runs_checkCategory {categoryId : Option UUID} :
    (checkCategory categoryId).Runs ctx db u db' ↔ db.categories.References categoryId ∧ db' = db := by
  cases categoryId <;> simp [checkCategory, Relational.Table.References, and_comm]

theorem runs_logChanges {changes : List (String × FieldChange)} :
    (logChanges itemId actorId changes).Runs ctx db u db' ↔
      (changes = [] ∧ db' = db) ∨ (changes ≠ [] ∧
        db.DeviceLogIntegral (editedLog itemId actorId changes).row ∧
        db' = db.appendLog ((editedLog itemId actorId changes).written ctx)) := by
  cases changes <;> simp [logChanges]

theorem runs_editItem {updates : ItemUpdates} :
    (editItem itemId updates actorId).Runs ctx db row db' ↔
    ∃ item, db.items.get? itemId = some item ∧ db.categories.References updates.categoryId ∧
      ∃ item', item' = flushed ctx db (editedItem item updates) ∧ Model.constraints db item' = .ok () ∧
      (∃ u, (logChanges item'.id actorId (itemChanges item updates)).Runs ctx (db.setItem item') u db') ∧
      row = item' := by
  simp [editItem, and_assoc]

theorem runs_changeStatus {status : DeviceStatus} {note : Option String} :
    (changeStatus itemId status note actorId).Runs ctx db row db' ↔
    ∃ item, db.items.get? itemId = some item ∧
      ∃ item', item' = flushed ctx db (item.setStatus status) ∧ Model.constraints db item' = .ok () ∧
      ∃ log, log = statusLog item'.id status item.status note actorId ∧
        (db.setItem item').DeviceLogIntegral log.row ∧
      row = item' ∧ db' = (db.setItem item').appendLog (log.written ctx) := by
  simp [changeStatus, and_assoc]

end InventoryService

end AssetPilot
