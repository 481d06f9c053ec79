import AssetPilot.Core.Identifiers
import AssetPilot.Effects.Items
import AssetPilot.Effects.Log
import AssetPilot.Invariants.Answers
import AssetPilot.Models.Dates

/-!
# Edits can be undone

`edit_item` overrides the fields of an item by its `updates`, and logs the fields that differ with both values as
JSON. Identifiers and dates are logged as text, from which they can be read back: undoing the `DEVICE_EDITED` rows
of an item from the last to the first takes it back to where it started. The new values are those of the `updates`,
which need not be what is stored: a column cuts the blanks beyond its length off a text.
-/

namespace AssetPilot

open Relational System Txn InventoryService
open SQLAlchemyRepository (flushed flushed_of_stored)

variable {ctx : Ctx} {db db' : Db} {e : Event} {itemId actorId : UUID} {updates : ItemUpdates}

/-- The values of the columns in `_EDITABLE_FIELDS`. -/
structure EditableFields where
  name : String
  categoryId : UUID
  clientName : Option String
  purchaseDate : Option Date
  deriving DecidableEq

def Item.editableFields (i : Item) : EditableFields := ⟨i.name, i.categoryId, i.clientName, i.purchaseDate⟩

/-- The fields overridden by the updates. -/
def InventoryService.ItemUpdates.over (updates : ItemUpdates) (f : EditableFields) : EditableFields where
  name := updates.name.getD f.name
  categoryId := updates.categoryId.getD f.categoryId
  clientName := updates.clientName.getD f.clientName
  purchaseDate := updates.purchaseDate.getD f.purchaseDate

/-- The texts that the updates write are not longer than their columns. -/
structure InventoryService.ItemUpdates.Fits (updates : ItemUpdates) : Prop where
  name : ∀ n ∈ updates.name, FitsVarchar n
  clientName : ∀ c ∈ updates.clientName, ∀ n ∈ c, FitsVarchar n

/-- The field has another value in `f'` than in `f`; both are given as JSON. -/
inductive EditableFields.Differs (f f' : EditableFields) : String → FieldChange → Prop
  | name (h : f'.name ≠ f.name) : Differs f f' "name" ⟨some f.name, some f'.name⟩
  | categoryId (h : f'.categoryId ≠ f.categoryId) :
      Differs f f' "category_id" ⟨some f.categoryId.str, some f'.categoryId.str⟩
  | clientName (h : f'.clientName ≠ f.clientName) : Differs f f' "client_name" ⟨f.clientName, f'.clientName⟩
  | purchaseDate (h : f'.purchaseDate ≠ f.purchaseDate) :
      Differs f f' "purchase_date" ⟨f.purchaseDate.map Date.str, f'.purchaseDate.map Date.str⟩

/-- The updates that write the old values of `changes` back. -/
def oldValues (changes : List (String × FieldChange)) : ItemUpdates where
  name := (changes.lookup "name").bind FieldChange.old
  categoryId := ((changes.lookup "category_id").bind FieldChange.old).bind UUID.parse
  clientName := (changes.lookup "client_name").map FieldChange.old
  purchaseDate := (changes.lookup "purchase_date").map fun c => c.old.bind Date.fromIsoformat

/-- The changes that a `DEVICE_EDITED` row tells of. -/
def DeviceLog.changes (l : DeviceLog) : List (String × FieldChange) :=
  if l.eventType = .deviceEdited then
    match l.logMetadata.lookup "changes" with
    | some (.changes fields) => fields
    | _ => []
  else []

/-- The `DEVICE_EDITED` rows undone, from the last to the first. -/
def undoEdits (rows : List DeviceLog) (f : EditableFields) : EditableFields :=
  rows.foldr (fun l => (oldValues l.changes).over) f

/-- The row tells of the edit that took `i` to `i'`: it lists the fields that differ, each once, and nothing else,
and the old values in it restore `i`. -/
structure DeviceLog.TellsEdit (actorId : UUID) (i i' : Item) (l : DeviceLog) : Prop where
  item : l.itemId = i.id
  event : l.eventType = .deviceEdited
  actor : l.actorId = some actorId ∧ l.actorRole = .itAdmin
  metadata : l.logMetadata = [("changes", .changes l.changes)]
  fields : (l.changes.map Prod.fst).Nodup
  exactly : ∀ field c, (field, c) ∈ l.changes ↔ i.editableFields.Differs i'.editableFields field c
  restores : (oldValues l.changes).over i'.editableFields = i.editableFields

/-- What an edit of `i` does that succeeds, with `i'` as its result. -/
structure ItemEdited (updates : ItemUpdates) (actorId : UUID) (i i' : Item) (db db' : Db) : Prop where
  written : db'.items.get? i.id = some i'
  fields : i'.editableFields = updates.over i.editableFields
  otherColumns : ∃ f : EditableFields, i' = { i with
    name := f.name
    categoryId := f.categoryId
    clientName := f.clientName
    purchaseDate := f.purchaseDate
    updatedAt := i'.updatedAt }
  otherItems : ∀ k, k ≠ i.id → db'.items.get? k = db.items.get? k
  otherTables : db' = { db with items := db'.items, deviceLog := db'.deviceLog }
  log : (i'.editableFields = i.editableFields ∧ db'.deviceLog = db.deviceLog) ∨
    (i'.editableFields ≠ i.editableFields ∧
      ∃ l, l.TellsEdit actorId i i' ∧ db'.deviceLog = db.deviceLog ++ [l])
  again : ∀ ctx' actorId', (editItem i.id updates actorId').Runs ctx' db' i' db'

/-! ### The changes of an edit -/

section FieldChange

variable {β : Type} [DecidableEq β] {field key : String} {jsonable : β → Option String} {oldValue : β}
  {newValue : Option β} {c : FieldChange}

theorem fieldChange_eq : fieldChange field jsonable oldValue newValue =
    if newValue.getD oldValue = oldValue then []
    else [(field, ⟨jsonable oldValue, jsonable (newValue.getD oldValue)⟩)] := by
  cases newValue with
  | none => rw [Option.getD_none, if_pos rfl, fieldChange]
  | some v => rfl

theorem mem_fieldChange : (key, c) ∈ fieldChange field jsonable oldValue newValue ↔
    newValue.getD oldValue ≠ oldValue ∧ key = field ∧
      c = ⟨jsonable oldValue, jsonable (newValue.getD oldValue)⟩ := by
  rw [fieldChange_eq]
  split
  · next h => simp [h]
  · next h => simp [h]

theorem lookup_fieldChange : (fieldChange field jsonable oldValue newValue).lookup key =
    if key = field ∧ newValue.getD oldValue ≠ oldValue then
      some ⟨jsonable oldValue, jsonable (newValue.getD oldValue)⟩
    else none := by
  rw [fieldChange_eq]
  by_cases hvalue : newValue.getD oldValue = oldValue <;> by_cases hkey : key = field <;>
    simp [hvalue, hkey]

theorem map_fst_fieldChange :
    ((fieldChange field jsonable oldValue newValue).map Prod.fst).Sublist [field] := by
  rw [fieldChange_eq]
  split
  · exact List.nil_sublist _
  · exact List.Sublist.refl _

end FieldChange

@[simp] theorem editableFields_editedItem (i : Item) :
    (editedItem i updates).editableFields = updates.over i.editableFields := rfl

theorem itemChanges_eq_nil_iff {i : Item} :
    itemChanges i updates = [] ↔ updates.over i.editableFields = i.editableFields := by
  simp only [itemChanges, List.append_eq_nil_iff, fieldChange_eq, ite_eq_left_iff, List.cons_ne_nil, imp_false,
    not_not, Item.editableFields, ItemUpdates.over, EditableFields.mk.injEq, and_assoc]

theorem over_over (f : EditableFields) : updates.over (updates.over f) = updates.over f := by
  obtain ⟨name, categoryId, clientName, purchaseDate⟩ := updates
  cases name <;> cases categoryId <;> cases clientName <;> cases purchaseDate <;> rfl

theorem editedItem_eq_self {i : Item} (h : updates.over i.editableFields = i.editableFields) :
    editedItem i updates = i := by
  simp only [Item.editableFields, ItemUpdates.over, EditableFields.mk.injEq] at h
  obtain ⟨hname, hcategory, hclient, hdate⟩ := h
  rw [editedItem, hname, hcategory, hclient, hdate]

theorem mem_itemChanges {i : Item} {field : String} {c : FieldChange} : (field, c) ∈ itemChanges i updates ↔
    i.editableFields.Differs (updates.over i.editableFields) field c := by
  simp only [itemChanges, List.mem_append, mem_fieldChange]
  constructor
  · rintro (((⟨h, rfl, rfl⟩ | ⟨h, rfl, rfl⟩) | ⟨h, rfl, rfl⟩) | ⟨h, rfl, rfl⟩)
    · exact .name h
    · exact .categoryId h
    · exact .clientName h
    · exact .purchaseDate h
  · rintro (h | h | h | h)
    · exact .inl (.inl (.inl ⟨h, rfl, rfl⟩))
    · exact .inl (.inl (.inr ⟨h, rfl, rfl⟩))
    · exact .inl (.inr ⟨h, rfl, rfl⟩)
    · exact .inr ⟨h, rfl, rfl⟩

theorem nodup_itemChanges (i : Item) : ((itemChanges i updates).map Prod.fst).Nodup := by
  have hsub : ((itemChanges i updates).map Prod.fst).Sublist
      ((["name"] ++ ["category_id"] ++ ["client_name"]) ++ ["purchase_date"]) := by
    rw [itemChanges, List.map_append, List.map_append, List.map_append]
    exact ((map_fst_fieldChange.append map_fst_fieldChange).append map_fst_fieldChange).append map_fst_fieldChange
  exact hsub.nodup (by decide)

/-- **The old values restore the fields**: a text is logged as it is, and an identifier and a date can be read back.
All that matters of the fields is that those without a change are the old ones. -/
theorem oldValues_itemChanges {i : Item} {f : EditableFields}
    (hname : updates.name.getD i.name = i.name → f.name = i.name)
    (hcategory : updates.categoryId.getD i.categoryId = i.categoryId → f.categoryId = i.categoryId)
    (hclient : updates.clientName.getD i.clientName = i.clientName → f.clientName = i.clientName)
    (hdate : updates.purchaseDate.getD i.purchaseDate = i.purchaseDate → f.purchaseDate = i.purchaseDate) :
    (oldValues (itemChanges i updates)).over f = i.editableFields := by
  have nameChange : (itemChanges i updates).lookup "name" = if updates.name.getD i.name ≠ i.name then
      some ⟨some i.name, some (updates.name.getD i.name)⟩ else none := by
    simp [itemChanges, List.lookup_append, lookup_fieldChange]
  have categoryChange : (itemChanges i updates).lookup "category_id" =
      if updates.categoryId.getD i.categoryId ≠ i.categoryId then
        some ⟨some i.categoryId.str, some (updates.categoryId.getD i.categoryId).str⟩ else none := by
    simp [itemChanges, List.lookup_append, lookup_fieldChange]
  have clientChange : (itemChanges i updates).lookup "client_name" =
      if updates.clientName.getD i.clientName ≠ i.clientName then
        some ⟨i.clientName, updates.clientName.getD i.clientName⟩ else none := by
    simp [itemChanges, List.lookup_append, lookup_fieldChange]
  have dateChange : (itemChanges i updates).lookup "purchase_date" =
      if updates.purchaseDate.getD i.purchaseDate ≠ i.purchaseDate then
        some ⟨i.purchaseDate.map Date.str, (updates.purchaseDate.getD i.purchaseDate).map Date.str⟩ else none := by
    simp [itemChanges, List.lookup_append, lookup_fieldChange]
  have hread : (i.purchaseDate.map Date.str).bind Date.fromIsoformat = i.purchaseDate := by
    cases i.purchaseDate with
    | none => rfl
    | some d => rw [Option.map_some, Option.bind_some, Date.fromIsoformat_str]
  simp only [ItemUpdates.over, oldValues, nameChange, categoryChange, clientChange, dateChange, Item.editableFields,
    EditableFields.mk.injEq]
  refine ⟨?_, ?_, ?_, ?_⟩
  · by_cases h : updates.name.getD i.name = i.name <;> simp [h, hname]
  · by_cases h : updates.categoryId.getD i.categoryId = i.categoryId <;> simp [h, hcategory, UUID.parse_str]
  · by_cases h : updates.clientName.getD i.clientName = i.clientName <;> simp [h, hclient]
  · by_cases h : updates.purchaseDate.getD i.purchaseDate = i.purchaseDate <;> simp [h, hdate, hread]

/-! ### One edit -/

theorem Item.constraints_of_set {i : Item} (h : Model.constraints db i = .ok ())
    (hitems : db'.items = db.items.set i) (hcategories : db'.categories = db.categories)
    (husers : db'.users = db.users) : Model.constraints db' i = .ok () := by
  obtain ⟨hapart, hfits, hcategory, howner⟩ := Item.constraints_iff.mp h
  refine Item.constraints_iff.mpr ⟨fun x hx hne => ?_, hfits, hcategories ▸ hcategory, husers ▸ howner⟩
  rw [hitems] at hx
  rcases Table.mem_set.mp hx with ⟨rfl, -⟩ | ⟨hx, -⟩
  · exact absurd rfl hne
  · exact hapart x hx hne

theorem runs_editItem_same {i : Item} (hi : db.items.get? i.id = some i)
    (hcategory : db.categories.References updates.categoryId)
    (hsame : updates.over i.editableFields = i.editableFields) (hcheck : Model.constraints db i = .ok ()) :
    (editItem i.id updates actorId).Runs ctx db i db := by
  have hflushed : flushed ctx db (editedItem i updates) = i := by
    rw [editedItem_eq_self hsame]
    exact flushed_of_stored hi (Item.assign_of_texts rfl rfl rfl) rfl
  refine runs_editItem.mpr ⟨i, hi, hcategory, i, hflushed.symm, hcheck, ⟨(), ?_⟩, rfl⟩
  refine runs_logChanges.mpr (.inl ⟨itemChanges_eq_nil_iff.mpr hsame, ?_⟩)
  rw [Db.setItem, Table.set_of_get? hi]

/-- The row that an edit stores has the texts that the columns make of those in the updates. -/
structure EditedRow (updates : ItemUpdates) (i row : Item) : Prop where
  name : row.name = varcharColumn (some i.name) (updates.name.getD i.name)
  clientName : row.clientName = varcharColumn? (some i.clientName) (updates.clientName.getD i.clientName)
  fits : row.Fits
  others : row = { i with
    name := row.name
    categoryId := updates.categoryId.getD i.categoryId
    clientName := row.clientName
    purchaseDate := updates.purchaseDate.getD i.purchaseDate
    updatedAt := row.updatedAt }

theorem EditedRow.of_flushed {i : Item} (hi : db.items.get? i.id = some i)
    (hcheck : Model.constraints db (flushed ctx db (editedItem i updates)) = .ok ()) :
    EditedRow updates i (flushed ctx db (editedItem i updates)) := by
  have hfits := (Item.constraints_iff.mp hcheck).2.1
  rw [Item.flushed_eq (show db.items.get? (editedItem i updates).id = some i from hi)] at hfits ⊢
  exact ⟨rfl, rfl, hfits, by simp [Model.assign, editedItem]⟩

namespace EditedRow

variable {i row : Item}

theorem id (h : EditedRow updates i row) : row.id = i.id := by rw [h.others]

/-- **The stored fields are those of the updates exactly if the texts fit their columns.** -/
theorem fields_iff (h : EditedRow updates i row) :
    row.editableFields = updates.over i.editableFields ↔ updates.Fits := by
  constructor
  · intro hfields
    have hname : row.name = updates.name.getD i.name := congrArg EditableFields.name hfields
    have hclient : row.clientName = updates.clientName.getD i.clientName := congrArg EditableFields.clientName hfields
    refine ⟨fun n hn => ?_, fun c hc n hn => ?_⟩
    · have hnew : row.name = n := by rw [hname, hn, Option.getD_some]
      exact hnew ▸ h.fits.1.2
    · have hnew : row.clientName = some n := by rw [hclient, hc, Option.getD_some, hn]
      exact (h.fits.2.2 n hnew).2
  · intro hfits
    have hname : row.name = updates.name.getD i.name := by
      rw [h.name]
      cases hn : updates.name with
      | none => exact varcharColumn_same
      | some n => exact varcharColumn_of_fits (hfits.name n hn)
    have hclient : row.clientName = updates.clientName.getD i.clientName := by
      rw [h.clientName]
      cases hc : updates.clientName with
      | none => exact varcharColumn?_same
      | some c => exact varcharColumn?_of_fits (hfits.clientName c hc)
    rw [Item.editableFields, hname, hclient, h.others]
    rfl

/-- The old values restore the fields, whatever the texts. -/
theorem restores (h : EditedRow updates i row) :
    (oldValues (itemChanges i updates)).over row.editableFields = i.editableFields := by
  refine oldValues_itemChanges (fun hsame => ?_) (fun hsame => ?_) (fun hsame => ?_) fun hsame => ?_
  · exact h.name.trans (by rw [hsame, varcharColumn_same])
  · rw [Item.editableFields, h.others]
    exact hsame
  · exact h.clientName.trans (by rw [hsame, varcharColumn?_same])
  · rw [Item.editableFields, h.others]
    exact hsame

end EditedRow

/-- **What an edit stores and logs** when it succeeds. -/
theorem editedRow_of_runs {row : Item} (h : (editItem itemId updates actorId).Runs ctx db row db') :
    ∃ i, db.items.get? itemId = some i ∧ EditedRow updates i row ∧ db.categories.References updates.categoryId ∧
      Model.constraints db row = .ok () ∧ ∃ rows, db' = { db.setItem row with deviceLog := db.deviceLog ++ rows } ∧
      ((itemChanges i updates = [] ∧ rows = []) ∨ (itemChanges i updates ≠ [] ∧
        rows = [(editedLog i.id actorId (itemChanges i updates)).written ctx])) := by
  obtain ⟨i, hi, hcategory, _, rfl, hcheck, ⟨_, hlog⟩, rfl⟩ := runs_editItem.mp h
  obtain rfl : i.id = itemId := Table.get?_key hi
  have hrow := EditedRow.of_flushed hi hcheck
  refine ⟨i, hi, hrow, hcategory, hcheck, ?_⟩
  rw [hrow.id] at hlog
  rcases runs_logChanges.mp hlog with ⟨hnone, rfl⟩ | ⟨hsome, -, rfl⟩
  · exact ⟨[], by rw [List.append_nil]; rfl, .inl ⟨hnone, rfl⟩⟩
  · exact ⟨_, rfl, .inr ⟨hsome, rfl⟩⟩

theorem tellsEdit_editedLog {i i' : Item} (h : EditedRow updates i i')
    (hfields : i'.editableFields = updates.over i.editableFields) :
    ((editedLog i.id actorId (itemChanges i updates)).written ctx).TellsEdit actorId i i' where
  item := rfl
  event := rfl
  actor := ⟨rfl, rfl⟩
  metadata := rfl
  fields := nodup_itemChanges i
  exactly _ _ := hfields ▸ mem_itemChanges
  restores := h.restores

/-- **An edit is exact if the texts fit their columns.** -/
theorem itemEdited_of_runs {row : Item} (h : (editItem itemId updates actorId).Runs ctx db row db')
    (hfits : updates.Fits) : ∃ i, db.items.get? itemId = some i ∧ ItemEdited updates actorId i row db db' := by
  obtain ⟨i, hi, hrow, hcategory, hcheck, rows, rfl, hrows⟩ := editedRow_of_runs h
  obtain rfl : i.id = itemId := Table.get?_key hi
  have hid : row.id = i.id := hrow.id
  have hfields := hrow.fields_iff.mpr hfits
  have hsame : row.editableFields = i.editableFields ↔ itemChanges i updates = [] := by
    rw [hfields, itemChanges_eq_nil_iff]
  have hget : ∀ k, (db.items.set row).get? k = if k = i.id then some row else db.items.get? k := by
    intro k
    rw [← hid]
    exact Table.get?_set_of_get? (show db.items.get? row.id = some i from hid.symm ▸ hi) k
  have hwritten : (db.items.set row).get? row.id = some row := (hget row.id).trans (if_pos hid)
  refine ⟨i, hi, hid ▸ hwritten, hfields, ⟨⟨_, _, _, _⟩, hrow.others⟩, fun k hk => (hget k).trans (if_neg hk), rfl,
    ?_, fun ctx' actorId' => ?_⟩
  · rcases hrows with ⟨hnone, rfl⟩ | ⟨hsome, rfl⟩
    · exact .inl ⟨hsame.mpr hnone, List.append_nil _⟩
    · exact .inr ⟨fun heq => hsome (hsame.mp heq), _, tellsEdit_editedLog hrow hfields, rfl⟩
  · rw [← hid]
    refine runs_editItem_same hwritten hcategory ?_ (Item.constraints_of_set hcheck rfl rfl rfl)
    rw [hfields, over_over]

/-- **And only then.** -/
theorem itemEdited_iff {row : Item} (h : (editItem itemId updates actorId).Runs ctx db row db') :
    (∃ i, db.items.get? itemId = some i ∧ ItemEdited updates actorId i row db db') ↔ updates.Fits := by
  refine ⟨?_, itemEdited_of_runs h⟩
  rintro ⟨i, hi, hedited⟩
  obtain ⟨j, hj, hrow, -⟩ := editedRow_of_runs h
  obtain rfl := Option.some.inj (hi.symm.trans hj)
  exact hrow.fields_iff.mp hedited.fields

theorem editItem_unknown {c : UUID} (hc : updates.categoryId = some c) (hunknown : db.categories.get? c = none) :
    ∃ m, (editItem itemId updates actorId).Fails ctx db (notFoundException m) := by
  have hwp : wp (fun e => ∃ m, e = notFoundException m) (fun _ _ => False) (editItem itemId updates actorId) ctx
      db := by
    simp only [editItem, getItemOr404, checkCategory, hc, wp_bind, ItemRepository.wp_getById, wp_orRaise,
      ItemCategoryRepository.wp_getById, wp_raiseIf, hunknown, not_true_eq_false, false_imp_iff, and_true]
    exact ⟨fun _ => ⟨_, rfl⟩, fun _ _ _ => ⟨_, rfl⟩⟩
  obtain ⟨hfails, hruns⟩ := wp_iff.mp hwp
  rcases runs_or_fails (editItem itemId updates actorId) ctx db with ⟨row, db', h⟩ | ⟨e, h⟩
  · exact (hruns row db' h).elim
  · obtain ⟨m, rfl⟩ := hfails e h
    exact ⟨m, h⟩

/-- A name that is longer than its column but for blanks is stored without them, and every edit to it is logged. -/
theorem editItem_padded {i : Item} {name : String} (h : db.Coherent) (hi : db.items.get? itemId = some i)
    (hactor : db.users.References actorId) (hname : Storable name) (hlong : ¬ FitsVarchar name) :
    ∃ row db', (editItem itemId { name := some name } actorId).Runs ctx db row db' ∧
      db'.items.get? itemId = some row ∧ row.name = varchar name ∧ db'.deviceLog ≠ db.deviceLog ∧
      db'.users = db.users := by
  obtain rfl : i.id = itemId := Table.get?_key hi
  have htexts : ItemUpdates.Storable { name := some name } := ⟨fun n hn => Option.some.inj hn ▸ hname, nofun⟩
  obtain ⟨row, db', hruns⟩ : ∃ row db', (editItem i.id { name := some name } actorId).Runs ctx db row db' :=
    exists_runs_editItem h hi Table.references_none htexts hactor
  obtain ⟨j, hj, hrow, -, -, rows, rfl, hrows⟩ := editedRow_of_runs hruns
  obtain rfl := Option.some.inj (hi.symm.trans hj)
  have hfits : FitsVarchar i.name := (Item.constraints_iff.mp (h.items i (Table.get?_mem hi))).2.1.1.2
  refine ⟨row, _, hruns, ?_, hrow.name.trans (varcharColumn_of_stored hfits), ?_, rfl⟩
  · rw [← hrow.id]
    exact Table.get?_set_self (show db.items.get? row.id = some i from hrow.id.symm ▸ hi) rfl
  · rcases hrows with ⟨hnone, -⟩ | ⟨-, rfl⟩
    · have hsame : name = i.name := congrArg EditableFields.name (itemChanges_eq_nil_iff.mp hnone)
      exact absurd (hsame ▸ hfits) hlong
    · exact fun heq => List.cons_ne_nil _ _ (List.append_right_eq_self.mp heq)

theorem editItem_padded_twice {i : Item} {name : String} (h : db.Coherent) (hi : db.items.get? itemId = some i)
    (hactor : db.users.References actorId) (hname : Storable name) (hlong : ¬ FitsVarchar name) :
    ∃ row db' row' db'', (editItem itemId { name := some name } actorId).Runs ctx db row db' ∧
      row.name = varchar name ∧
      (¬ ∃ i, db.items.get? itemId = some i ∧ ItemEdited { name := some name } actorId i row db db') ∧
      (editItem itemId { name := some name } actorId).Runs ctx db' row' db'' ∧ db''.deviceLog ≠ db'.deviceLog := by
  have step : ∀ {db : Db} {i : Item}, db.Coherent → db.items.get? itemId = some i → db.users.References actorId →
      ∃ row db', (editItem itemId { name := some name } actorId).Runs ctx db row db' ∧
        db'.items.get? itemId = some row ∧ row.name = varchar name ∧ db'.deviceLog ≠ db.deviceLog ∧
        db'.users = db.users := fun h hi hactor => editItem_padded h hi hactor hname hlong
  obtain ⟨row, db', hruns, hrow, hstored, -, husers⟩ := step h hi hactor
  have hcall : (Op.editItem itemId { name := some name } actorId).run.Runs ctx db () db' :=
    runs_discard.mpr ⟨row, hruns⟩
  obtain ⟨row', db'', hruns', -, -, hlog, -⟩ := step (h.service hcall) hrow (husers ▸ hactor)
  refine ⟨row, db', row', db'', hruns, hstored, fun hedited => hlong ?_, hruns', hlog⟩
  exact ((itemEdited_iff hruns).mp hedited).name _ rfl

/-! ### Runs -/

theorem undoEdits_append (rows rows' : List DeviceLog) (f : EditableFields) :
    undoEdits (rows ++ rows') f = undoEdits rows (undoEdits rows' f) := List.foldr_append

theorem undoEdits_of_ne {rows : List DeviceLog} (h : ∀ l ∈ rows, l.eventType ≠ .deviceEdited) (f : EditableFields) :
    undoEdits rows f = f := by
  induction rows with
  | nil => rfl
  | cons l rows ih =>
    have hnone : l.changes = [] := if_neg (h l List.mem_cons_self)
    rw [undoEdits, List.foldr_cons, ← undoEdits, ih fun x hx => h x (List.mem_cons_of_mem _ hx), hnone]
    rfl

/-- Between `db` and `db'` the item `d` is kept, and undoing its new rows takes its fields back. -/
def Undone (d : UUID) (db db' : Db) : Prop :=
  ∀ i, db.items.get? d = some i → ∃ i' rows, db'.items.get? d = some i' ∧
    db'.deviceLog = db.deviceLog ++ rows ∧
    undoEdits (timeline d rows) i'.editableFields = i.editableFields

theorem Undone.refl (d : UUID) (db : Db) : Undone d db db :=
  fun i hi => ⟨i, [], hi, (List.append_nil _).symm, rfl⟩

theorem Undone.trans {d : UUID} {db'' : Db} (h : Undone d db db') (h' : Undone d db' db'') :
    Undone d db db'' := by
  intro i hi
  obtain ⟨i₁, rows₁, hi₁, hlog₁, hundo₁⟩ := h i hi
  obtain ⟨i₂, rows₂, hi₂, hlog₂, hundo₂⟩ := h' i₁ hi₁
  refine ⟨i₂, rows₁ ++ rows₂, hi₂, by rw [hlog₂, hlog₁, List.append_assoc], ?_⟩
  rw [timeline_append, undoEdits_append, hundo₂, hundo₁]

theorem editItem_undone {row : Item} (h : (editItem itemId updates actorId).Runs ctx db row db') (d : UUID) :
    Undone d db db' := by
  obtain ⟨i, hi, hrow, -, -, rows, rfl, hrows⟩ := editedRow_of_runs h
  obtain rfl : i.id = itemId := Table.get?_key hi
  have hget : ∀ k, (db.items.set row).get? k = if k = i.id then some row else db.items.get? k := by
    intro k
    rw [← hrow.id]
    exact Table.get?_set_of_get? (show db.items.get? row.id = some i from hrow.id.symm ▸ hi) k
  have hitem : ∀ l ∈ rows, l.itemId = i.id := by
    intro l hl
    rcases hrows with ⟨-, rfl⟩ | ⟨-, rfl⟩
    · exact absurd hl List.not_mem_nil
    · rw [List.mem_singleton.mp hl]
      rfl
  intro x hx
  by_cases hd : d = i.id
  · obtain rfl := Option.some.inj (hi.symm.trans (hd ▸ hx))
    refine ⟨row, rows, (hget d).trans (if_pos hd), rfl, ?_⟩
    have hown : timeline d rows = rows := List.filter_eq_self.mpr fun l hl => by simp [hitem l hl, hd]
    have hrestores := hrow.restores
    rw [hown]
    rcases hrows with ⟨hnone, rfl⟩ | ⟨-, rfl⟩
    · rw [hnone] at hrestores
      exact hrestores
    · exact hrestores
  · exact ⟨x, rows, (hget d).trans ((if_neg hd).trans hx), rfl,
      by rw [timeline_of_ne fun l hl he => hd (he.symm.trans (hitem l hl))]; rfl⟩

theorem Event.deviceEdited_notMem_logs (h : ¬ e.EditsItem) : .deviceEdited ∉ e.logs := by
  cases e with
  | portal ctx step => exact List.not_mem_nil
  | service ctx op =>
    cases op
    case editItem => exact absurd trivial h
    case changeStatus itemId status note actorId =>
      cases status <;> simp [Event.logs, Op.logs, _STATUS_EVENT_MAP]
    case resolve ticketId resolution note newId next actorId =>
      cases resolution <;> simp [Event.logs, Op.logs, _RESOLUTION_EVENTS]
    all_goals simp [Event.logs, Op.logs]

/-- **Every event can be undone**: an edit by its row, and the others leave the fields and log no edit. -/
theorem Event.Commits.undone (h : e.Commits db db') (d : UUID) : Undone d db db' := by
  by_cases hedit : e.EditsItem
  · cases h with
    | portal h => exact hedit.elim
    | @service ctx op db' h =>
      cases op
      case editItem itemId updates actorId =>
        obtain ⟨row, h⟩ := runs_discard.mp h
        exact editItem_undone h d
      all_goals exact hedit.elim
  · intro i hi
    obtain rfl : i.id = d := Table.get?_key hi
    obtain ⟨u, hstored⟩ := h.items.stored i hi
    obtain ⟨status, owner, hafter⟩ : ∃ s o, e.itemAfter db i = { i with
        status := s
        currentOwnerId := o } := Event.itemAfter_eq hedit i
    obtain ⟨rows, hlog, hkinds⟩ := h.appends
    refine ⟨_, rows, hstored, hlog, ?_⟩
    rw [hafter]
    refine undoEdits_of_ne (fun l hl he => ?_) _
    exact Event.deviceEdited_notMem_logs hedit (he ▸ hkinds l (List.mem_of_mem_filter hl))

/-- **Edits are exact, minimal and undoable**, as far as their texts fit. An edit that succeeds overrides the fields,
logs exactly those that differ and can be repeated without effect exactly if no text is longer than its column; an
edit to an unknown category is refused, and in every state of a run the `DEVICE_EDITED` rows of an item, undone from
the last to the first, restore its fields. -/
theorem edits_undoable (ctx : Ctx) (db : Db) (itemId : UUID) (updates : ItemUpdates) (actorId : UUID) :
    (∀ row db', (editItem itemId updates actorId).Runs ctx db row db' →
      ((∃ i, db.items.get? itemId = some i ∧ ItemEdited updates actorId i row db db') ↔ updates.Fits)) ∧
    (∀ c, updates.categoryId = some c → db.categories.get? c = none →
      (∃ m, (editItem itemId updates actorId).Fails ctx db (notFoundException m)) ∧
        (editItem itemId updates actorId).exec ctx db = db) ∧
    ∀ db', Run Step (fun _ _ => True) db db' → Undone itemId db db' := by
  refine ⟨fun row db' h => itemEdited_iff h, fun c hc hunknown => ?_, fun db' run => ?_⟩
  · obtain ⟨m, hfails⟩ := editItem_unknown hc hunknown
    exact ⟨⟨m, hfails⟩, hfails.exec⟩
  · refine run.inv (P := fun s => Undone itemId db s) (fun s e s' hs _ hstep => ?_) (.refl itemId db)
    rcases hstep.cases with rfl | hcommits
    · exact hs
    · exact hs.trans (hcommits.undone itemId)

namespace Sample

/-- Laptop 1 gets another name and a date of purchase. -/
def edit : Op :=
  .editItem 1 { name := some "Notebook", purchaseDate := some (some ⟨2024, 2, 29, by decide, by decide, by decide⟩) } 9

/-- Laptop 1 gets its name and date back. -/
def editBack : Op := .editItem 1 { name := some "Laptop", purchaseDate := some none } 9

/-- `n` letters. -/
def letters (n : Nat) : List Char := List.replicate n 'a'

/-- As many letters as a column holds, with a blank after them. -/
def paddedName : String := String.ofList (letters 255 ++ [' '])

theorem length_letters {n : Nat} : (String.ofList (letters n)).length = n :=
  String.length_ofList.trans List.length_replicate

theorem isVarchar_letters {n : Nat} (hn : n ≤ 255) : IsVarchar (String.ofList (letters n)) := by
  refine ⟨fun hnul => ?_, length_letters.trans_le hn⟩
  rw [String.toList_ofList] at hnul
  exact absurd (List.eq_of_mem_replicate hnul) (by decide)

theorem varchar_paddedName : varchar paddedName = String.ofList (letters 255) :=
  Varchar.assign_ofList_append List.length_replicate fun _ hc => List.mem_singleton.mp hc

theorem paddedName_storable : Storable paddedName := by
  rw [Storable, varchar_paddedName]
  exact isVarchar_letters le_rfl

theorem paddedName_not_fits : ¬ FitsVarchar paddedName := by
  intro hfits
  have hsame : paddedName = String.ofList (letters 255) := (varchar_of_fits hfits).symm.trans varchar_paddedName
  have hlist : letters 255 ++ [' '] = letters 255 := String.ofList_injective hsame
  exact List.cons_ne_nil _ _ (List.append_right_eq_self.mp hlist)

end Sample

/-- Laptop 1 is edited twice; category 7 is not there. -/
theorem edits_undoable_twice :
    (∃ i row, ItemEdited { name := some "Laptop" } 9 i row Sample.store
      (Sample.after [Sample.call (.editItem 1 { name := some "Laptop" } 9)])) ∧
    (editItem 1 { categoryId := some 7 } 9).exec Sample.ctx Sample.store = Sample.store ∧
    Undone 1 Sample.store (Sample.after [Sample.call Sample.edit, Sample.call Sample.editBack]) := by
  refine ⟨?_, ((edits_undoable Sample.ctx Sample.store 1 { categoryId := some 7 } 9).2.1 7 rfl rfl).2,
    (edits_undoable Sample.ctx Sample.store 1 {} 9).2.2 _ (.step (.step .refl (Sample.call Sample.edit) trivial rfl)
      (Sample.call Sample.editBack) trivial rfl)⟩
  have hfits : ItemUpdates.Fits { name := some "Laptop" } :=
    ⟨fun n hn => Option.some.inj hn ▸ (by decide : FitsVarchar "Laptop"), nofun⟩
  obtain ⟨i, -, h⟩ := ((edits_undoable Sample.ctx Sample.store 1 { name := some "Laptop" } 9).1 _ _ rfl).mpr hfits
  exact ⟨i, _, h⟩

/-- The blank after the name of laptop 1 is not stored. -/
theorem editItem_padded_not_itemEdited :
    ∃ row db' row' db'', (editItem 1 { name := some Sample.paddedName } 9).Runs Sample.ctx Sample.store row db' ∧
      row.name = String.ofList (Sample.letters 255) ∧
      (¬ ∃ i, Sample.store.items.get? 1 = some i ∧
        ItemEdited { name := some Sample.paddedName } 9 i row Sample.store db') ∧
      (editItem 1 { name := some Sample.paddedName } 9).Runs Sample.ctx db' row' db'' ∧
      db''.deviceLog ≠ db'.deviceLog := by
  have hstore : Sample.store.Coherent := by decide
  have hactor : Sample.store.users.References (some 9) := by decide
  have hlaptop : Sample.store.items.get? 1 = some (Sample.device 1 "S-1" .available none) := rfl
  rw [← Sample.varchar_paddedName]
  exact editItem_padded_twice hstore hlaptop hactor Sample.paddedName_storable Sample.paddedName_not_fits

end AssetPilot
