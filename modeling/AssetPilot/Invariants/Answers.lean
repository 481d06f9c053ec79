import AssetPilot.Invariants.Coherence
import AssetPilot.Invariants.Audit
import AssetPilot.Repositories.Outcomes

/-!
# Every call answers

A service call ends with a result or with an `AppException` when each of its flushes satisfies the
constraints of its row. In a coherent store the rows that a call reads bring most of that with them; what
is left are the inputs that no service checks.
-/

namespace AssetPilot

open Relational Custody System Txn
open SQLAlchemyRepository (flushed born)
open DeviceLogService (AppendArgs append)

variable {ctx : Ctx} {db db' : Db} {k actorId : UUID}

/-! ### Rows that bring their constraints with them -/

namespace Db.Coherent

theorem request_ok {r r' : Request} (h : db.Coherent) (hr : db.requests.get? k = some r) (hid : r'.id = r.id)
    (hclaim : Db.activeStatus r'.status = false ∨
      r'.status = r.status ∧ r'.assignedItemId = r.assignedItemId)
    (hrefs : db.RequestRefers r → db.RequestRefers r') : Model.constraints db r' = .ok () := by
  obtain ⟨hapart, hr'⟩ := Request.constraints_iff.mp (h.requests r (Table.get?_mem hr))
  refine Request.constraints_iff.mpr ⟨fun x hx hne hclash => ?_, hrefs hr'⟩
  obtain ⟨hactive, hdevice, hitem, hstatus⟩ := hclash
  rcases hclaim with hended | ⟨hs, hd⟩
  · exact absurd hactive (by rw [hended]; decide)
  · refine hapart x hx (fun he => hne (he.trans hid.symm)) ⟨hs ▸ hactive, hd ▸ hdevice, ?_, ?_⟩
    · exact hitem.trans hd
    · exact hstatus.trans hs

theorem item_ok {i : Item} (h : db.Coherent) (hi : db.items.get? k = some i) (x : Item)
    (hsame : x.id = i.id ∧ x.qrCodeToken = i.qrCodeToken)
    (htexts : x.name = i.name ∧ x.serialNo = i.serialNo ∧ x.clientName = i.clientName)
    (hrefs : db.ItemRefers i → db.categories.References x.categoryId ∧ db.users.References x.currentOwnerId)
    (db₀ : Db) : Model.constraints db (flushed ctx db₀ x) = .ok () := by
  obtain ⟨hapart, hi'⟩ := Item.constraints_iff.mp (h.items i (Table.get?_mem hi))
  have hfits : x.Fits := by
    rw [Item.Fits, htexts.1, htexts.2.1, htexts.2.2]
    exact hi'.1
  obtain ⟨t, hflushed⟩ : ∃ t, flushed ctx db₀ x = { x with updatedAt := t } := Item.flushed_of_fits hfits
  rw [hflushed]
  refine Item.constraints_iff.mpr ⟨fun y hy hne => ?_, hfits, hrefs hi'⟩
  show y.serialNo ≠ x.serialNo ∧ y.qrCodeToken ≠ x.qrCodeToken
  rw [htexts.2.1, hsame.2]
  exact hapart y hy fun he => hne (he.trans hsame.1.symm)

theorem user_ok {u u' : User} (h : db.Coherent) (hu : db.users.get? k = some u)
    (hsame : u'.id = u.id ∧ u'.managerId = u.managerId)
    (htexts : u'.name = u.name ∧ u'.email = u.email ∧ u'.passwordHash = u.passwordHash) :
    Model.constraints db u' = .ok () := by
  obtain ⟨hapart, hfits, hhash, hmanager⟩ := User.constraints_iff.mp (h.users u (Table.get?_mem hu))
  refine User.constraints_iff.mpr ⟨fun y hy hne => ?_, ?_, htexts.2.2.symm ▸ hhash, hsame.2.symm ▸ hmanager⟩
  · rw [User.EmailsDiffer, htexts.2.1]
    exact hapart y hy fun he => hne (he.trans hsame.1.symm)
  · rw [User.Fits, htexts.1, htexts.2.1, htexts.2.2]
    exact hfits

theorem flushed_user_ok {u x : User} (h : db.Coherent) (hu : db.users.get? x.id = some u)
    (hmanager : x.managerId = u.managerId)
    (htexts : x.name = u.name ∧ x.email = u.email ∧ x.passwordHash = u.passwordHash) :
    Model.constraints db (flushed ctx db x) = .ok () := by
  rw [User.flushed_of_texts hu htexts]
  exact h.user_ok hu ⟨(Table.get?_key hu).symm, hmanager⟩ htexts

theorem ticket_refs {t : SupportRequest} (h : db.Coherent) (ht : db.supportRequests.get? k = some t) :
    db.SupportRequestIntegral t :=
  SupportRequest.constraints_iff.mp (h.supportRequests t (Table.get?_mem ht))

theorem setStatus_ok {i : Item} {s : DeviceStatus} (h : db.Coherent) (hi : db.items.get? k = some i)
    (db₀ : Db) : Model.constraints db (flushed ctx db₀ (i.setStatus s)) = .ok () :=
  h.item_ok hi (i.setStatus s) ⟨rfl, rfl⟩ ⟨rfl, rfl, rfl⟩ (·.2) db₀

theorem release_ok {i : Item} {s : DeviceStatus} (h : db.Coherent) (hi : db.items.get? k = some i)
    (db₀ : Db) : Model.constraints db (flushed ctx db₀ (i.release s)) = .ok () :=
  h.item_ok hi (i.release s) ⟨rfl, rfl⟩ ⟨rfl, rfl, rfl⟩ (fun hrefers => ⟨hrefers.2.1, Table.references_none⟩) db₀

theorem handed_ok {i : Item} {ownerId : UUID} (h : db.Coherent) (hi : db.items.get? k = some i)
    (howner : db.users.References ownerId) (db₀ : Db) :
    Model.constraints db (flushed ctx db₀ (AssignmentService.handedItem i ownerId)) = .ok () :=
  h.item_ok hi (AssignmentService.handedItem i ownerId) ⟨rfl, rfl⟩ ⟨rfl, rfl, rfl⟩
    (fun hrefers => ⟨hrefers.2.1, howner⟩) db₀

theorem handed_fits {i : Item} {ownerId : UUID} (h : db.Coherent) (hi : db.items.get? k = some i) (db₀ : Db) :
    (flushed ctx db₀ (AssignmentService.handedItem i ownerId)).Fits := by
  have hfits : i.Fits := (Item.constraints_iff.mp (h.items i (Table.get?_mem hi))).2.1
  obtain ⟨t, hflushed⟩ : ∃ t, flushed ctx db₀ (AssignmentService.handedItem i ownerId) =
      { AssignmentService.handedItem i ownerId with updatedAt := t } := Item.flushed_of_fits hfits
  rw [hflushed]
  exact hfits

end Db.Coherent

/-! ### Rules of the services -/

@[simp] theorem AssignmentService.wp_getRequestOr404 {id : UUID} {Q : Request → Db → Prop} :
    wp Failure.IsApp Q (getRequestOr404 id) ctx db ↔ ∀ r, db.requests.get? id = some r → Q r db := by
  simp [getRequestOr404]

@[simp] theorem AssignmentService.wp_getItemOr404 {id : UUID} {Q : Item → Db → Prop} :
    wp Failure.IsApp Q (getItemOr404 id) ctx db ↔ ∀ i, db.items.get? id = some i → Q i db := by
  simp [getItemOr404]

@[simp] theorem InventoryService.wp_getItemOr404 {id : UUID} {Q : Item → Db → Prop} :
    wp Failure.IsApp Q (getItemOr404 id) ctx db ↔ ∀ i, db.items.get? id = some i → Q i db := by
  simp [getItemOr404]

@[simp] theorem RequestService.wp_getRequestOr404 {id : UUID} {Q : Request → Db → Prop} :
    wp Failure.IsApp Q (getRequestOr404 id) ctx db ↔ ∀ r, db.requests.get? id = some r → Q r db := by
  simp [getRequestOr404]

@[simp] theorem ShippingService.wp_getRequestOr404 {id : UUID} {Q : Request → Db → Prop} :
    wp Failure.IsApp Q (getRequestOr404 id) ctx db ↔ ∀ r, db.requests.get? id = some r → Q r db := by
  simp [getRequestOr404]

@[simp] theorem ShippingService.wp_getAssignedItemOr404 {r : Request} {Q : Item → Db → Prop} :
    wp Failure.IsApp Q (getAssignedItemOr404 r) ctx db ↔
      ∀ d, r.assignedItemId = some d → ∀ i, db.items.get? d = some i → Q i db := by
  simp [getAssignedItemOr404]

@[simp] theorem SupportService.wp_getTicketOr404 {id : UUID} {Q : SupportRequest → Db → Prop} :
    wp Failure.IsApp Q (getTicketOr404 id) ctx db ↔ ∀ t, db.supportRequests.get? id = some t → Q t db := by
  simp [getTicketOr404]

@[simp] theorem SupportService.wp_getItemOr404 {id : UUID} {Q : Item → Db → Prop} :
    wp Failure.IsApp Q (getItemOr404 id) ctx db ↔ ∀ i, db.items.get? id = some i → Q i db := by
  simp [getItemOr404]

@[simp] theorem ExtensionService.wp_getExtensionOr404 {id : UUID} {Q : ExtensionRequest → Db → Prop} :
    wp Failure.IsApp Q (getExtensionOr404 id) ctx db ↔
      ∀ x, db.extensionRequests.get? id = some x → Q x db := by
  simp [getExtensionOr404]

@[simp] theorem ExtensionService.wp_getParentRequestOr404 {id : UUID} {Q : Request → Db → Prop} :
    wp Failure.IsApp Q (getParentRequestOr404 id) ctx db ↔ ∀ r, db.requests.get? id = some r → Q r db := by
  simp [getParentRequestOr404]

@[simp] theorem UserService.wp_getUserOr404 {id : UUID} {Q : User → Db → Prop} :
    wp Failure.IsApp Q (getUserOr404 id) ctx db ↔ ∀ u, db.users.get? id = some u → Q u db := by
  simp [getUserOr404]

/-! ### Inventory -/

namespace InventoryService

variable {itemId : UUID}

theorem changeStatus_answers {status : DeviceStatus} {note : Option String} (h : db.Coherent)
    (hactor : db.users.References actorId) : Answers (changeStatus itemId status note actorId) ctx db := by
  simp only [Answers, changeStatus, wp_bind, wp_getItemOr404, ItemRepository.wp_update,
    DeviceLogService.wp_append, wp_pure, and_true]
  intro i hi
  obtain rfl : i.id = itemId := Table.get?_key hi
  refine ⟨h.setStatus_ok hi _, (Db.KeysKept.setItem _).deviceLogIntegral ?_⟩
  exact ⟨Table.references_of_get? hi, hactor, Table.references_none, Table.references_none,
    Table.references_none, Table.references_none⟩

theorem createItem_answers {name serialNo : String} {categoryId : UUID} {ownerType : OwnerType}
    {clientName : Option String} {date : Option Date} (hactor : db.users.References actorId)
    (hid : db.items.get? (ctx.uuid4 0) = none)
    (hqr : ∀ i ∈ db.items.rows, i.qrCodeToken ≠ ctx.uuid4 1) :
    Answers (createItem name serialNo categoryId ownerType clientName date actorId) ctx db ↔
      (db.categories.get? categoryId ≠ none → (∀ i ∈ db.items.rows, i.serialNo ≠ serialNo) →
        (Storable name ∧ Storable serialNo ∧ (ownerType = .client → ∀ c ∈ clientName, Storable c)) ∧
          ∀ i ∈ db.items.rows, i.serialNo ≠ varchar serialNo) := by
  have hfits : (born ctx (newItem (ctx.uuid4 0) (ctx.uuid4 1) name serialNo categoryId ownerType clientName
      date)).Fits ↔ Storable name ∧ Storable serialNo ∧ (ownerType = .client → ∀ c ∈ clientName, Storable c) := by
    rw [SQLAlchemyRepository.fits_born_item]
    by_cases howner : ownerType = .client <;> simp [newItem, howner]
  have hborn : (born ctx (newItem (ctx.uuid4 0) (ctx.uuid4 1) name serialNo categoryId ownerType clientName
      date)).serialNo = varchar serialNo := SQLAlchemyRepository.born_serialNo
  have hfind : db.items.rows.find? (fun i => i.serialNo = serialNo) = none ↔
      ∀ i ∈ db.items.rows, i.serialNo ≠ serialNo := by simp
  simp only [Answers, createItem, wp_bind, ItemCategoryRepository.wp_getById, wp_raiseIf,
    Failure.isApp_notFound, Failure.isApp_conflict, implies_true, true_and, ItemRepository.wp_getBySerialNo,
    not_not, hfind, wp_uuid4, ItemRepository.wp_create, DeviceLogService.wp_append, wp_pure, and_true]
  refine imp_congr_right fun hcategory => imp_congr_right fun hserial => ?_
  rw [Item.constraints_iff, ← hfits]
  constructor
  · rintro ⟨-, ⟨hapart, hfits, -⟩, -⟩
    refine ⟨hfits, fun i hi hi' => (hapart i hi fun he => ?_).1 (hi'.trans hborn.symm)⟩
    exact Table.get?_eq_none_iff.mp hid i hi he
  · rintro ⟨hfits, hstored⟩
    refine ⟨hid, ⟨fun x hx _ => ⟨fun hx' => hstored x hx (hx'.trans hborn), hqr x hx⟩, hfits, ?_,
      Table.references_none⟩, ?_⟩
    · intro c hc
      obtain rfl := Option.some.inj hc
      exact hcategory
    · exact ⟨Table.references_insert_self hid, hactor, Table.references_none, Table.references_none,
        Table.references_none, Table.references_none⟩

@[simp] theorem wp_checkCategory {categoryId : Option UUID} {Q : Unit → Db → Prop} :
    wp Failure.IsApp Q (checkCategory categoryId) ctx db ↔
      (db.categories.References categoryId → Q () db) := by
  cases categoryId with
  | none => exact ⟨fun h _ => h, fun h => h Table.references_none⟩
  | some c => simp [checkCategory, Table.References]

theorem flushed_editedItem {i : Item} {updates : ItemUpdates} (hi : db.items.get? i.id = some i) (hfits : i.Fits) :
    (flushed ctx db (editedItem i updates)).name = varchar (updates.name.getD i.name) ∧
      (flushed ctx db (editedItem i updates)).clientName = (updates.clientName.getD i.clientName).map varchar ∧
      (flushed ctx db (editedItem i updates)).serialNo = i.serialNo := by
  have hstored : SQLAlchemyRepository.stored db (editedItem i updates) = some i := hi
  rw [flushed, hstored]
  exact ⟨varcharColumn_of_stored hfits.1.2, varcharColumn?_of_stored fun c hc => (hfits.2.2 c hc).2,
    varcharColumn_same⟩

/-- The columns can be set to the texts of an edit. -/
def ItemUpdates.Storable (updates : ItemUpdates) : Prop :=
  (∀ n ∈ updates.name, AssetPilot.Storable n) ∧ ∀ c ∈ updates.clientName, ∀ n ∈ c, AssetPilot.Storable n

instance (updates : ItemUpdates) : Decidable updates.Storable := inferInstanceAs (Decidable (_ ∧ _))

theorem editedItem_ok_iff {i : Item} {updates : ItemUpdates} (h : db.Coherent) (hi : db.items.get? i.id = some i)
    (hcategory : db.categories.References updates.categoryId) :
    Model.constraints db (flushed ctx db (editedItem i updates)) = .ok () ↔ updates.Storable := by
  obtain ⟨hapart, ⟨hname, hserial, hclient⟩, hcategory', howner⟩ :=
    Item.constraints_iff.mp (h.items i (Table.get?_mem hi))
  obtain ⟨hname', hclient', hserial'⟩ : (flushed ctx db (editedItem i updates)).name = _ ∧ _ ∧ _ :=
    flushed_editedItem hi ⟨hname, hserial, hclient⟩
  have hfits : (flushed ctx db (editedItem i updates)).Fits ↔ updates.Storable := by
    rw [Item.Fits, hname', hclient', hserial', and_iff_right hserial]
    refine and_congr ?_ ?_
    · cases updates.name with
      | none => exact iff_of_true hname.storable fun n hn => absurd hn (Option.not_mem_none n)
      | some n => simp [Storable]
    · cases updates.clientName with
      | none =>
        refine iff_of_true (fun c hc => ?_) fun c hc => absurd hc (Option.not_mem_none c)
        obtain ⟨x, hx, rfl⟩ := Option.mem_map.mp hc
        exact (hclient x hx).storable
      | some c => simp [Storable]
  rw [Item.constraints_iff, ← hfits]
  refine ⟨fun hok => hok.2.1, fun hfits => ⟨fun x hx hne => ?_, hfits, ?_, howner⟩⟩
  · rw [Item.LabelsDiffer, hserial']
    exact hapart x hx hne
  · show db.categories.References (updates.categoryId.getD i.categoryId)
    cases hc : updates.categoryId with
    | none => exact hcategory'
    | some c => exact hc ▸ hcategory

theorem editItem_answers {updates : ItemUpdates} (h : db.Coherent) (hactor : db.users.References actorId) :
    Answers (editItem itemId updates actorId) ctx db ↔
      (db.items.get? itemId ≠ none → db.categories.References updates.categoryId → updates.Storable) := by
  have hfound : ∀ P : Prop, (∀ i, db.items.get? itemId = some i → P) ↔ (db.items.get? itemId ≠ none → P) := by
    intro P
    cases db.items.get? itemId <;> simp
  rw [← hfound]
  simp only [Answers, editItem, wp_bind, wp_getItemOr404, wp_checkCategory, ItemRepository.wp_update, wp_pure]
  refine forall₂_congr fun i hi => imp_congr_right fun hcategory => ?_
  obtain rfl : i.id = itemId := Table.get?_key hi
  rw [editedItem_ok_iff h hi hcategory, and_iff_left_iff_imp]
  intro _
  cases itemChanges i updates with
  | nil => trivial
  | cons c cs =>
    simp only [logChanges, wp_bind, DeviceLogService.wp_append, wp_pure, and_true]
    exact (Db.KeysKept.setItem _).deviceLogIntegral ⟨Table.references_of_get? hi, hactor,
      Table.references_none, Table.references_none, Table.references_none, Table.references_none⟩

theorem exists_runs_editItem {i : Item} {updates : ItemUpdates} (h : db.Coherent)
    (hi : db.items.get? i.id = some i) (hcategory : db.categories.References updates.categoryId)
    (htexts : updates.Storable) (hactor : db.users.References actorId) :
    ∃ row db', (editItem i.id updates actorId).Runs ctx db row db' := by
  have hok : Model.constraints db (flushed ctx db (editedItem i updates)) = .ok () :=
    (editedItem_ok_iff h hi hcategory).mpr htexts
  obtain ⟨db', hlog⟩ : ∃ db', (logChanges (flushed ctx db (editedItem i updates)).id actorId
      (itemChanges i updates)).Runs ctx (db.setItem (flushed ctx db (editedItem i updates))) () db' := by
    by_cases hnone : itemChanges i updates = []
    · exact ⟨_, runs_logChanges.mpr (.inl ⟨hnone, rfl⟩)⟩
    · refine ⟨_, runs_logChanges.mpr (.inr ⟨hnone, (Db.KeysKept.setItem _).deviceLogIntegral ?_, rfl⟩)⟩
      exact ⟨Table.references_of_get? hi, hactor, Table.references_none, Table.references_none,
        Table.references_none, Table.references_none⟩
  exact ⟨_, db', runs_editItem.mpr ⟨i, hi, hcategory, _, rfl, hok, ⟨(), hlog⟩, rfl⟩⟩

end InventoryService

/-! ### Assignment and the approval queue -/

namespace AssignmentService

variable {requestId itemId : UUID} {f t : Datetime}

theorem updateBookingRange_answers (h : db.Coherent) : Answers (updateBookingRange requestId f t) ctx db ↔
    ∀ r, db.requests.get? requestId = some r → r.status = .assigned → r.assignedItemId ≠ none := by
  simp only [Answers, updateBookingRange, wp_bind, wp_getRequestOr404, wp_raiseIf, wp_orRaise,
    Failure.isApp_conflict, isApp_assertionError, implies_true, true_and, not_not,
    RequestRepository.wp_hasOverlappingAssignedBooking, RequestRepository.wp_update, and_true]
  refine forall₂_congr fun r hr => imp_congr_right fun hstatus => and_iff_left_of_imp ?_
  intro _ d hd _
  exact h.request_ok hr rfl (.inr ⟨rfl, rfl⟩) id

theorem assign_answers {wfh : Bool} (h : db.Coherent) (hactor : db.users.References actorId) :
    Answers (assign requestId itemId f t wfh actorId) ctx db := by
  simp only [Answers, assign, wp_bind, wp_getRequestOr404, wp_getItemOr404, wp_raiseIf,
    Failure.isApp_conflict, Failure.isApp_validation, implies_true, true_and, wp_utcNow,
    RequestRepository.wp_hasOverlappingAssignedBooking, wp_mapFailure,
    RequestRepository.wp_update_translated, ItemRepository.wp_update_translated,
    DeviceLogService.wp_append, wp_pure, and_true]
  intro r hr _ i hi _ _ _ _
  obtain rfl : r.id = requestId := Table.get?_key hr
  obtain rfl : i.id = itemId := Table.get?_key hi
  refine ⟨h.handed_fits hi _, fun _ => ?_⟩
  exact ((Db.KeysKept.setRequest _).trans (.setItem _)).deviceLogIntegral ⟨Table.references_of_get? hi,
    hactor, Table.references_of_get? hr, Table.references_none, Table.references_none,
    Table.references_none⟩

theorem directAssign_answers {employeeId : UUID} (h : db.Coherent) (hactor : db.users.References actorId) :
    Answers (directAssign itemId employeeId f t actorId) ctx db := by
  simp only [Answers, directAssign, wp_bind, wp_getItemOr404, wp_raiseIf, wp_orRaise,
    Failure.isApp_conflict, Failure.isApp_validation, Failure.isApp_notFound, implies_true, true_and,
    wp_utcNow, wp_uuid4, RequestRepository.wp_hasOverlappingAssignedBooking, UserRepository.wp_getById,
    wp_mapFailure, RequestRepository.wp_create_translated, ItemRepository.wp_update_translated,
    DeviceLogService.wp_append, wp_pure, and_true]
  intro i hi _ _ _ u _ _ hfresh _
  obtain rfl : i.id = itemId := Table.get?_key hi
  refine ⟨h.handed_fits hi _, fun _ => ?_⟩
  exact (Db.KeysKept.setItem _).deviceLogIntegral ⟨Table.references_of_get? hi, hactor,
    Table.references_insert_self hfresh, Table.references_none, Table.references_none, Table.references_none⟩

end AssignmentService

namespace RequestService

variable {requestId : UUID} {reason : String} {note : Option String}

theorem reject_answers (h : db.Coherent) (hactor : db.users.References actorId) :
    Answers (reject requestId reason note actorId) ctx db := by
  simp only [Answers, reject, wp_bind, wp_getRequestOr404, wp_raiseIf, Failure.isApp_conflict, implies_true,
    true_and, wp_utcNow, RequestRepository.wp_update, and_true]
  intro r hr _
  refine h.request_ok hr rfl (.inl rfl) ?_
  rintro ⟨h₁, h₂, h₃, h₄, -, h₆, h₇⟩
  exact ⟨h₁, h₂, h₃, h₄, hactor, h₆, h₇⟩

theorem cancel_answers (h : db.Coherent) (hactor : db.users.References actorId) :
    Answers (cancel requestId reason actorId) ctx db := by
  simp only [Answers, cancel, wp_bind, wp_getRequestOr404, wp_raiseIf, Failure.isApp_conflict, implies_true,
    true_and, wp_utcNow, RequestRepository.wp_update, and_true]
  intro r hr _
  refine h.request_ok hr rfl (.inl rfl) ?_
  rintro ⟨h₁, h₂, h₃, h₄, h₅, -, h₇⟩
  exact ⟨h₁, h₂, h₃, h₄, h₅, hactor, h₇⟩

theorem escalateToManager_answers {managerId : Option UUID} (h : db.Coherent) :
    Answers (escalateToManager requestId managerId) ctx db ↔
      ∀ r, db.requests.get? requestId = some r → r.status = .pendingItApproval →
        r.requiresMgrApproval = false → db.users.References managerId ∧
          Table.Apart Request.Compatible db.requests { r with status := .pendingMgrApproval } := by
  simp only [Answers, escalateToManager, wp_bind, wp_getRequestOr404, wp_raiseIf, Failure.isApp_conflict,
    implies_true, true_and, not_or, not_not, and_imp, Bool.not_eq_true]
  refine forall₂_congr fun r hr => imp_congr_right fun hstatus => imp_congr_right fun hrequires => ?_
  obtain rfl : r.id = requestId := Table.get?_key hr
  obtain ⟨-, h₁, h₂, h₃, h₄, h₅, h₆, h₇⟩ := Request.constraints_iff.mp (h.requests r (Table.get?_mem hr))
  have hupdate : ∀ m, wp Failure.IsApp (fun _ _ => True) (RequestRepository.update (escalatedRequest r m))
      ctx db ↔ db.users.References m ∧
        Table.Apart Request.Compatible db.requests { r with status := .pendingMgrApproval } := by
    intro m
    rw [RequestRepository.wp_update, and_true, Request.constraints_iff]
    constructor
    · rintro ⟨hapart, -, -, -, hmanager, -⟩
      exact ⟨hmanager, hapart⟩
    · rintro ⟨hmanager, hapart⟩
      exact ⟨hapart, h₁, h₂, h₃, hmanager, h₅, h₆, h₇⟩
  cases managerId with
  | some m => exact hupdate (some m)
  | none =>
    simp only [resolveManager, wp_bind, UserRepository.wp_getById, wp_pure]
    refine (hupdate _).trans (and_congr_left' (iff_of_true ?_ Table.references_none))
    -- the manager of the requester, who is a stored user
    cases hrequester : db.users.get? r.requesterId with
    | none => exact Table.references_none
    | some u => exact (User.constraints_iff.mp (h.users u (Table.get?_mem hrequester))).2.2.2

end RequestService

/-! ### Shipping and returns -/

namespace ShippingService

variable {requestId itemId : UUID}

theorem ship_answers {url : String} (h : db.Coherent) (hactor : db.users.References actorId) :
    Answers (ship requestId url actorId) ctx db := by
  simp only [Answers, ship, wp_bind, wp_getRequestOr404, wp_getAssignedItemOr404, wp_raiseIf,
    Failure.isApp_conflict, Failure.isApp_validation, implies_true, true_and, wp_utcNow,
    RequestRepository.wp_update, ItemRepository.wp_update, DeviceLogService.wp_append, wp_pure, and_true]
  intro r hr _ d _ i hi _
  obtain rfl : r.id = requestId := Table.get?_key hr
  obtain rfl : i.id = d := Table.get?_key hi
  have hr' : Model.constraints db (flushed ctx db (shippedRequest r url (ctx.clock 0))) = .ok () :=
    h.request_ok hr rfl (.inr ⟨rfl, rfl⟩) id
  refine ⟨hr', (h.setRequest hr').setStatus_ok hi _, ?_⟩
  exact ((Db.KeysKept.setRequest _).trans (.setItem _)).deviceLogIntegral ⟨Table.references_of_get? hi,
    hactor, Table.references_of_get? hr, Table.references_none, Table.references_none,
    Table.references_none⟩

theorem confirmDelivery_answers (h : db.Coherent) (hactor : db.users.References actorId) :
    Answers (confirmDelivery requestId actorId) ctx db := by
  simp only [Answers, confirmDelivery, wp_bind, wp_getRequestOr404, wp_getAssignedItemOr404, wp_raiseIf,
    Failure.isApp_conflict, implies_true, true_and, wp_utcNow, RequestRepository.wp_update,
    ItemRepository.wp_update, DeviceLogService.wp_append, wp_pure, and_true]
  intro r hr d _ i hi _
  obtain rfl : r.id = requestId := Table.get?_key hr
  obtain rfl : i.id = d := Table.get?_key hi
  have hr' : Model.constraints db (flushed ctx db (deliveredRequest r (ctx.clock 0))) = .ok () :=
    h.request_ok hr rfl (.inr ⟨rfl, rfl⟩) id
  refine ⟨hr', (h.setRequest hr').setStatus_ok hi _, ?_⟩
  exact ((Db.KeysKept.setRequest _).trans (.setItem _)).deviceLogIntegral ⟨Table.references_of_get? hi,
    hactor, Table.references_of_get? hr, Table.references_none, Table.references_none,
    Table.references_none⟩

/-- What the cascade finds it can still refer to, whatever it has closed already. -/
theorem autoCloseOpenSupport_answers (h : db.Coherent) (hitem : db.items.References itemId) :
    Answers (autoCloseOpenSupport itemId) ctx db := by
  have hloop : wp Failure.IsApp (fun _ s => db.KeysKept s) (autoCloseOpenSupport itemId) ctx db := by
    refine wp_forEach (P := db.KeysKept) (fun n t ht s hs => ?_) (.refl db) 1
    have hstored : db.supportRequests.get? t.id = some t := Table.mem_iff_get?.mp (mem_openTickets.mp ht).1
    simp only [closeTicket, wp_bind, wp_utcNow, SupportRequestRepository.wp_update,
      DeviceLogService.wp_append, wp_pure]
    refine ⟨SupportRequest.constraints_iff.mpr (hs.supportRequestIntegral (t := t) (h.ticket_refs hstored)),
      ?_, hs.trans ((Db.KeysKept.setSupportRequest _).trans (.appendLog _))⟩
    exact (hs.trans (.setSupportRequest _)).deviceLogIntegral ⟨hitem, Table.references_none,
      Table.references_none, Table.references_of_get? hstored, Table.references_none, Table.references_none⟩
  exact wp_iff.mpr ⟨(wp_iff.mp hloop).1, fun _ _ _ => trivial⟩

theorem completeReturn_answers {next : DeviceStatus} (h : db.Coherent)
    (hactor : db.users.References actorId) : Answers (completeReturn requestId next actorId) ctx db := by
  simp only [Answers, completeReturn, wp_bind, wp_getRequestOr404, wp_getAssignedItemOr404, wp_raiseIf,
    Failure.isApp_conflict, implies_true, true_and, wp_utcNow, RequestRepository.wp_update,
    ItemRepository.wp_update, DeviceLogService.wp_append, wp_pure]
  intro r hr d _ i hi _
  obtain rfl : r.id = requestId := Table.get?_key hr
  obtain rfl : i.id = d := Table.get?_key hi
  have hr' : Model.constraints db
      (flushed ctx db (completedRequest r (some next) actorId (ctx.clock 0))) = .ok () := by
    refine h.request_ok hr rfl (.inl rfl) ?_
    rintro ⟨h₁, h₂, h₃, h₄, h₅, h₆, -⟩
    exact ⟨h₁, h₂, h₃, h₄, h₅, h₆, hactor⟩
  have hrid : (flushed ctx db (completedRequest r (some next) actorId (ctx.clock 0))).id = r.id := rfl
  generalize flushed ctx db (completedRequest r (some next) actorId (ctx.clock 0)) = r' at hr' hrid
  have hi' : Model.constraints (db.setRequest r') (flushed ctx (db.setRequest r') (i.release next)) = .ok () :=
    (h.setRequest hr').release_ok hi _
  have hiid : (flushed ctx (db.setRequest r') (i.release next)).id = i.id := rfl
  generalize flushed ctx (db.setRequest r') (i.release next) = i' at hi' hiid
  have hlog : ∀ l : DeviceLog, l.itemId = i'.id → l.actorId = some actorId → l.requestId = some r'.id →
      l.supportRequestId = none → l.extensionRequestId = none → l.handoverRequestId = none →
      db.DeviceLogIntegral l := by
    intro l h₁ h₂ h₃ h₄ h₅ h₆
    rw [Db.DeviceLogIntegral, h₁, h₂, h₃, h₄, h₅, h₆, hiid, hrid]
    exact ⟨Table.references_of_get? hi, hactor, Table.references_of_get? hr, Table.references_none,
      Table.references_none, Table.references_none⟩
  have hkept : db.KeysKept ((db.setRequest r').setItem i') := (Db.KeysKept.setRequest r').trans (.setItem i')
  refine ⟨hr', hi', hkept.deviceLogIntegral (hlog _ rfl rfl rfl rfl rfl rfl),
    (hkept.trans (.appendLog _)).deviceLogIntegral (hlog _ rfl rfl rfl rfl rfl rfl), ?_⟩
  refine autoCloseOpenSupport_answers ((((h.setRequest hr').setItem hi').appendLog _).appendLog _) ?_
  exact hkept.items (hiid ▸ Table.references_of_get? hi)

end ShippingService

/-! ### Support -/

namespace SupportService

variable {ticket : SupportRequest} {item : Item} {ticketId : UUID}

theorem startRepair_answers (h : db.Coherent) (hactor : db.users.References actorId)
    (hticket : db.supportRequests.References ticket.id) : Answers (startRepair ticket actorId) ctx db := by
  unfold startRepair
  split
  · simp only [Answers, wp_bind, wp_getItemOr404, ItemRepository.wp_update, DeviceLogService.wp_append,
      wp_pure, and_true]
    intro i hi
    rw [← (Table.get?_key hi : i.id = ticket.itemId)] at hi
    refine ⟨h.setStatus_ok hi _, (Db.KeysKept.setItem _).deviceLogIntegral ?_⟩
    exact ⟨Table.references_of_get? hi, hactor, Table.references_none, hticket, Table.references_none,
      Table.references_none⟩
  · exact trivial

theorem start_answers (h : db.Coherent) (hactor : db.users.References actorId) :
    Answers (start ticketId actorId) ctx db := by
  simp only [Answers, start, wp_bind, wp_getTicketOr404, wp_raiseIf, Failure.isApp_conflict, implies_true,
    true_and, SupportRequestRepository.wp_update, wp_pure]
  intro t ht _
  obtain rfl : t.id = ticketId := Table.get?_key ht
  have ht' : Model.constraints db (flushed ctx db { t with status := .inProgress }) = .ok () :=
    SupportRequest.constraints_iff.mpr (h.ticket_refs ht : db.SupportRequestIntegral t)
  refine ⟨ht', startRepair_answers (h.setSupportRequest ht') hactor ?_⟩
  exact (Db.KeysKept.setSupportRequest _).supportRequests (Table.references_of_get? ht)

theorem repairInPlace_answers (h : db.Coherent) (hactor : db.users.References actorId)
    (hi : db.items.get? item.id = some item) (ht : db.supportRequests.get? ticket.id = some ticket) :
    Answers (repairInPlace ticket item actorId) ctx db := by
  simp only [Answers, repairInPlace, wp_bind, wp_raiseIf, Failure.isApp_conflict, implies_true, true_and,
    ItemRepository.wp_update, DeviceLogService.wp_append, wp_pure, and_true]
  intro _
  refine ⟨h.setStatus_ok hi _, (Db.KeysKept.setItem _).deviceLogIntegral ?_⟩
  exact ⟨Table.references_of_get? hi, hactor, Table.references_none, Table.references_of_get? ht,
    Table.references_none, Table.references_none⟩

theorem markLost_answers (h : db.Coherent) (hactor : db.users.References actorId)
    (hi : db.items.get? item.id = some item) (ht : db.supportRequests.get? ticket.id = some ticket) :
    Answers (markLost ticket item actorId) ctx db := by
  simp only [Answers, markLost, wp_bind, wp_orRaise, Failure.isApp_conflict, Failure.isApp_notFound,
    implies_true, true_and, RequestRepository.wp_getById, wp_utcNow, ItemRepository.wp_update,
    RequestRepository.wp_update, DeviceLogService.wp_append, wp_pure, and_true]
  intro q _ r hr
  obtain rfl : r.id = q := Table.get?_key hr
  have hi' : Model.constraints db (flushed ctx db (item.setStatus .lost)) = .ok () := h.setStatus_ok hi _
  refine ⟨hi', (h.setItem hi').request_ok hr rfl (.inl rfl) ?_, ?_⟩
  · rintro ⟨h₁, h₂, h₃, h₄, h₅, h₆, -⟩
    exact ⟨h₁, h₂, h₃, h₄, h₅, h₆, hactor⟩
  · exact ((Db.KeysKept.setItem _).trans (.setRequest _)).deviceLogIntegral ⟨Table.references_of_get? hi,
      hactor, Table.references_of_get? hr, Table.references_of_get? ht, Table.references_none,
      Table.references_none⟩

theorem swap_answers {newId : UUID} {next : DeviceStatus} (h : db.Coherent)
    (hactor : db.users.References actorId) (hi : db.items.get? item.id = some item)
    (ht : db.supportRequests.get? ticket.id = some ticket) :
    Answers (swap ticket item newId next actorId) ctx db ↔
      ∀ n, db.items.get? newId = some n → SwapTarget item n → ∀ r, r ∈ db.tiedRequest ticket →
        Table.Apart Request.Compatible db.requests { r with assignedItemId := some n.id } := by
  simp only [Answers, swap, wp_bind, wp_raiseIf, wp_orRaise, Failure.isApp_conflict, Failure.isApp_notFound,
    Failure.isApp_validation, implies_true, true_and, wp_getItemOr404, RequestRepository.wp_getById,
    RequestRepository.wp_update, ItemRepository.wp_update, DeviceLogService.wp_append, wp_pure, and_true,
    not_not]
  constructor
  · intro hswap n hn htarget r hr
    obtain ⟨q, hq, hr⟩ := Option.bind_eq_some_iff.mp hr
    obtain rfl : n.id = newId := Table.get?_key hn
    obtain ⟨hok, -⟩ := hswap htarget.1 q hq n hn htarget.2.1 htarget.2.2 r hr
    exact (Request.constraints_iff.mp hok).1
  · intro hclaims hne q hq n hn hcategory havail r hr
    obtain rfl : n.id = newId := Table.get?_key hn
    obtain rfl : r.id = q := Table.get?_key hr
    obtain ⟨-, h₁, h₂, -, h₄, h₅, h₆, h₇⟩ := Request.constraints_iff.mp (h.requests r (Table.get?_mem hr))
    have hr' : Model.constraints db (flushed ctx db { r with assignedItemId := some n.id }) = .ok () :=
      Request.constraints_iff.mpr ⟨hclaims n hn ⟨hne, hcategory, havail⟩ r (bind_eq_some hq hr), h₁, h₂,
        Table.references_of_get? hn, h₄, h₅, h₆, h₇⟩
    generalize flushed ctx db { r with assignedItemId := some n.id } = r' at hr'
    have hi' : Model.constraints (db.setRequest r') (flushed ctx (db.setRequest r') (item.release next)) =
        .ok () := (h.setRequest hr').release_ok hi _
    have hiid : (flushed ctx (db.setRequest r') (item.release next)).id = item.id := rfl
    generalize flushed ctx (db.setRequest r') (item.release next) = i' at hi' hiid
    have hn' : ((db.setRequest r').setItem i').items.get? n.id = some n :=
      (Table.get?_set_of_ne fun he => hne (he.trans hiid)).trans hn
    have hnew : Model.constraints ((db.setRequest r').setItem i') (flushed ctx ((db.setRequest r').setItem i')
        (AssignmentService.handedItem n r.requesterId)) = .ok () :=
      ((h.setRequest hr').setItem hi').handed_ok hn' h₁ _
    have hkept : db.KeysKept ((db.setRequest r').setItem i') :=
      (Db.KeysKept.setRequest r').trans (.setItem i')
    have hlog : ∀ itemId, db.items.References itemId → ∀ l : DeviceLog, l.itemId = itemId →
        l.actorId = some actorId → l.requestId = some r.id → l.supportRequestId = some ticket.id →
        l.extensionRequestId = none → l.handoverRequestId = none → db.DeviceLogIntegral l := by
      intro itemId hitem l e₁ e₂ e₃ e₄ e₅ e₆
      rw [Db.DeviceLogIntegral, e₁, e₂, e₃, e₄, e₅, e₆]
      exact ⟨hitem, hactor, Table.references_of_get? hr, Table.references_of_get? ht, Table.references_none,
        Table.references_none⟩
    refine ⟨hr', hi', hnew, ?_, ?_⟩
    · apply (hkept.trans (.setItem _)).deviceLogIntegral
      exact hlog _ (Table.references_of_get? hi) _ rfl rfl rfl rfl rfl rfl
    · apply ((hkept.trans (.setItem _)).trans (.appendLog _)).deviceLogIntegral
      exact hlog _ (Table.references_of_get? hn) _ rfl rfl rfl rfl rfl rfl

theorem applyResolution_kept {resolution : SupportResolution} {newId : Option UUID}
    {next : Option DeviceStatus} {u : Unit}
    (h : (applyResolution ticket item resolution newId next actorId).Runs ctx db u db') :
    db.KeysKept db' ∧ (resolution = .swapped → db.items.References newId) := by
  cases resolution with
  | remoteResolved =>
    simp only [applyResolution, runs_pure] at h
    obtain ⟨-, rfl⟩ := h
    exact ⟨.refl _, fun hswapped => by cases hswapped⟩
  | repairedInPlace =>
    obtain ⟨-, i', -, -, l, -, -, rfl⟩ := runs_repairInPlace.mp h
    exact ⟨(Db.KeysKept.setItem i').trans (.appendLog _), fun hswapped => by cases hswapped⟩
  | swapped =>
    simp only [applyResolution, runs_bind, runs_orRaise] at h
    obtain ⟨m, _, ⟨rfl, rfl⟩, s, _, ⟨rfl, rfl⟩, h⟩ := h
    obtain ⟨-, q, -, n, hn, -, -, r, -, r', -, -, db₁, rfl, o', -, -, db₂, rfl, n', -, -, l, -, -, l', -, -,
      rfl⟩ := runs_swap.mp h
    refine ⟨?_, fun _ => Table.references_of_get? hn⟩
    exact ((((Db.KeysKept.setRequest r').trans (.setItem o')).trans (.setItem n')).trans
      (.appendLog _)).trans (.appendLog _)
  | markedLost =>
    obtain ⟨q, -, r, -, i', -, -, r', -, -, l, -, -, rfl⟩ := runs_markLost.mp h
    exact ⟨((Db.KeysKept.setItem i').trans (.setRequest r')).trans (.appendLog _),
      fun hswapped => by cases hswapped⟩

theorem applyResolution_answers {resolution : SupportResolution} {newId : Option UUID}
    {next : Option DeviceStatus} (h : db.Coherent)
    (hactor : db.users.References actorId) (hi : db.items.get? item.id = some item)
    (ht : db.supportRequests.get? ticket.id = some ticket)
    (hadmitted : ResolveSupportRequestRequest resolution newId next) :
    Answers (applyResolution ticket item resolution newId next actorId) ctx db ↔
      (resolution = .swapped → ∀ n, n ∈ newId.bind db.items.get? → SwapTarget item n →
        ∀ r, r ∈ db.tiedRequest ticket →
          Table.Apart Request.Compatible db.requests { r with assignedItemId := some n.id }) := by
  cases resolution with
  | remoteResolved => exact iff_of_true trivial nofun
  | repairedInPlace => exact iff_of_true (repairInPlace_answers h hactor hi ht) nofun
  | markedLost => exact iff_of_true (markLost_answers h hactor hi ht) nofun
  | swapped =>
    cases newId with
    | none => exact absurd ⟨rfl, .inl rfl⟩ hadmitted
    | some m =>
      cases next with
      | none => exact absurd ⟨rfl, .inr rfl⟩ hadmitted
      | some s => exact (swap_answers h hactor hi ht).trans ⟨fun hall _ => hall, fun hall => hall rfl⟩

/-- After the resolution the ticket and the log are written without a check. -/
theorem resolve_answers {resolution : SupportResolution} {note : Option String} {newId : Option UUID}
    {next : Option DeviceStatus} (h : db.Coherent)
    (hactor : db.users.References actorId)
    (hadmitted : ResolveSupportRequestRequest resolution newId next) :
    Answers (resolve ticketId resolution note newId next actorId) ctx db ↔
      ∀ t, db.supportRequests.get? ticketId = some t → t.status ≠ .resolved →
        ∀ i, db.items.get? t.itemId = some i → resolution = .swapped →
          ∀ n, n ∈ newId.bind db.items.get? → SwapTarget i n → ∀ r, r ∈ db.tiedRequest t →
            Table.Apart Request.Compatible db.requests { r with assignedItemId := some n.id } := by
  simp only [Answers, resolve, wp_bind, wp_getTicketOr404, wp_raiseIf, Failure.isApp_conflict, implies_true,
    true_and, wp_getItemOr404]
  refine forall₂_congr fun t ht => imp_congr_right fun _ => forall₂_congr fun i hi => ?_
  obtain rfl : t.id = ticketId := Table.get?_key ht
  have hid : i.id = t.itemId := Table.get?_key hi
  rw [← hid] at hi
  have happlied : Answers (applyResolution t i resolution newId next actorId) ctx db ↔ _ :=
    applyResolution_answers h hactor hi ht hadmitted
  rw [← happlied, wp_iff, Answers, wp_true_iff]
  refine and_iff_left_of_imp fun _ u db₁ happly => ?_
  obtain ⟨hkept, hnew⟩ := applyResolution_kept happly
  simp only [wp_utcNow, SupportRequestRepository.wp_update, DeviceLogService.wp_append, wp_pure, and_true]
  obtain ⟨hitem, hreporter, hrequest, hswapped, hresolver⟩ := h.ticket_refs ht
  refine ⟨SupportRequest.constraints_iff.mpr (hkept.supportRequestIntegral ?_),
    (hkept.trans (.setSupportRequest _)).deviceLogIntegral ?_⟩
  · refine ⟨hitem, hreporter, hrequest, ?_, hactor⟩
    show db.items.References (if resolution = .swapped then newId else t.swappedToItemId)
    split_ifs with hres
    · exact hnew hres
    · exact hswapped
  · exact ⟨Table.references_of_get? hi, hactor, Table.references_none, Table.references_of_get? ht,
      Table.references_none, Table.references_none⟩

end SupportService

/-! ### Extensions -/

namespace ExtensionService

variable {extensionId : UUID} {note : Option String}

theorem decided_ok {x : ExtensionRequest} {status : ExtensionStatus} {now : Datetime} (h : db.Coherent)
    (hactor : db.users.References actorId) (hx : db.extensionRequests.get? k = some x) (hkept : db.KeysKept db')
    (db₀ : Db) :
    Model.constraints db' (flushed ctx db₀ (decidedExtension x status note actorId now)) = .ok () := by
  obtain ⟨hparent, hrequester, hmanager, -⟩ :=
    ExtensionRequest.constraints_iff.mp (h.extensionRequests x (Table.get?_mem hx))
  exact ExtensionRequest.constraints_iff.mpr
    (hkept.extensionRequestIntegral ⟨hparent, hrequester, hmanager, hactor⟩)

theorem approve_answers (h : db.Coherent) (hactor : db.users.References actorId) :
    Answers (approve extensionId note actorId) ctx db ↔
      ∀ x, db.extensionRequests.get? extensionId = some x → x.status = .pending →
        x.mgrApprovalStatus ∈ _MGR_APPROVAL_STATUSES_ALLOWING_IT_APPROVAL →
          ∀ r, db.requests.get? x.originalRequestId = some r → r.assignedItemId ≠ none := by
  simp only [Answers, approve, wp_bind, wp_getExtensionOr404, wp_raiseIf, Failure.isApp_conflict,
    implies_true, true_and, wp_getParentRequestOr404, wp_utcNow, RequestRepository.wp_update, wp_orRaise,
    ExtensionRequestRepository.wp_update, DeviceLogService.wp_append, wp_pure, and_true,
    isApp_assertionError, imp_false, not_not]
  refine forall₂_congr fun x hx => imp_congr_right fun hstatus => imp_congr_right fun hmgr =>
    forall₂_congr fun r hr => ?_
  obtain rfl : x.id = extensionId := Table.get?_key hx
  have hrid : r.id = x.originalRequestId := Table.get?_key hr
  rw [← hrid] at hr
  have hr' : Model.constraints db (flushed ctx db { r with assignedTo := some x.extendedTo }) = .ok () :=
    h.request_ok hr rfl (.inr ⟨rfl, rfl⟩) id
  constructor
  · rintro ⟨-, -, hdevice, -⟩
    exact hdevice
  · intro hdevice
    refine ⟨hr', decided_ok h hactor hx (.setRequest _) _, hdevice, fun d hd => ?_⟩
    refine ((Db.KeysKept.setRequest _).trans (.setExtensionRequest _)).deviceLogIntegral ?_
    obtain ⟨-, -, -, hitem, -⟩ := Request.constraints_iff.mp (h.requests r (Table.get?_mem hr))
    exact ⟨hd ▸ hitem, hactor, Table.references_of_get? hr, Table.references_none,
      Table.references_of_get? hx, Table.references_none⟩

theorem reject_answers (h : db.Coherent) (hactor : db.users.References actorId) :
    Answers (reject extensionId note actorId) ctx db ↔
      ∀ x, db.extensionRequests.get? extensionId = some x → x.status = .pending →
        ∀ r, db.requests.get? x.originalRequestId = some r → r.assignedItemId ≠ none := by
  simp only [Answers, reject, wp_bind, wp_getExtensionOr404, wp_raiseIf, Failure.isApp_conflict,
    implies_true, true_and, wp_getParentRequestOr404, wp_utcNow, wp_orRaise,
    ExtensionRequestRepository.wp_update, DeviceLogService.wp_append, wp_pure, and_true,
    isApp_assertionError, imp_false, not_not]
  refine forall₂_congr fun x hx => imp_congr_right fun hstatus => forall₂_congr fun r hr => ?_
  obtain rfl : x.id = extensionId := Table.get?_key hx
  have hrid : r.id = x.originalRequestId := Table.get?_key hr
  rw [← hrid] at hr
  constructor
  · rintro ⟨-, hdevice, -⟩
    exact hdevice
  · intro hdevice
    refine ⟨decided_ok h hactor hx (.refl db) _, hdevice, fun d hd => ?_⟩
    refine (Db.KeysKept.setExtensionRequest _).deviceLogIntegral ?_
    obtain ⟨-, -, -, hitem, -⟩ := Request.constraints_iff.mp (h.requests r (Table.get?_mem hr))
    exact ⟨hd ▸ hitem, hactor, Table.references_of_get? hr, Table.references_none,
      Table.references_of_get? hx, Table.references_none⟩

end ExtensionService

/-! ### Users -/

/-- What `bcrypt.hashpw` documents: it refuses a password of more than 72 bytes, and a hash is a short text. -/
structure Ctx.Bcrypt (ctx : Ctx) : Prop where
  refuses : ∀ p, ctx.hashpw p = none ↔ 72 < p.utf8ByteSize
  short : ∀ p, ∀ hash ∈ ctx.hashpw p, IsVarchar hash

namespace UserService

variable {userId : UUID} {name email password : String} {role : UserRole}

theorem wp_insertUser {Q : User → Db → Prop} (hbcrypt : ctx.Bcrypt)
    (hfresh : db.users.get? (ctx.uuid4 0) = none) (hQ : ∀ u s, Q u s) :
    wp Failure.IsApp Q (insertUser name email role password) ctx db ↔
      ((∀ u ∈ db.users.rows, u.email ≠ email) → password.utf8ByteSize ≤ 72 ∧
        (Storable name ∧ Storable email) ∧ ∀ u ∈ db.users.rows, u.email ≠ varchar email) := by
  have hfind : db.users.rows.find? (fun u => u.email = email) = none ↔
      ∀ u ∈ db.users.rows, u.email ≠ email := by simp
  have htakes : ctx.hashpw password ≠ none ↔ password.utf8ByteSize ≤ 72 :=
    (not_congr (hbcrypt.refuses password)).trans not_lt
  simp only [insertUser, wp_bind, UserRepository.wp_getByEmail, wp_raiseIf, Failure.isApp_conflict,
    implies_true, true_and, not_not, hfind, hashPassword, wp_ask, wp_orRaise, isApp_valueError, imp_false,
    wp_uuid4, UserRepository.wp_create, newUser_id, hfresh, hQ, and_true, htakes]
  refine imp_congr_right fun hemail => and_congr_right fun hpassword => ?_
  obtain ⟨hash, hhash⟩ := Option.ne_none_iff_exists'.mp (htakes.mpr hpassword)
  have hstorable : ∀ c ∈ some hash, Storable c := by
    rintro _ ⟨⟩
    exact (hbcrypt.short password hash hhash).storable
  have hfits : (born ctx (newUser (ctx.uuid4 0) name email hash role)).Fits ↔ Storable name ∧ Storable email :=
    SQLAlchemyRepository.fits_born_user.trans (and_congr_right' (and_iff_left hstorable))
  have hborn : (born ctx (newUser (ctx.uuid4 0) name email hash role)).email = varchar email :=
    SQLAlchemyRepository.born_email
  simp only [hhash, Option.some.injEq, forall_eq', User.constraints_iff, ← hfits]
  constructor
  · rintro ⟨hapart, hok, -⟩
    refine ⟨hok, fun u hu hu' => hapart u hu (fun he => ?_) (hu'.trans hborn.symm)⟩
    exact Table.get?_eq_none_iff.mp hfresh u hu he
  · rintro ⟨hok, hstored⟩
    refine ⟨fun u hu _ hu' => hstored u hu (hu'.trans hborn), hok, ?_, Table.references_none⟩
    rw [SQLAlchemyRepository.born_passwordHash]
    exact Option.some_ne_none _

theorem createUser_answers (hbcrypt : ctx.Bcrypt) (hfresh : db.users.get? (ctx.uuid4 0) = none) :
    Answers (createUser name email role) ctx db ↔
      ((∀ u ∈ db.users.rows, u.email ≠ email) →
        (Storable name ∧ Storable email) ∧ ∀ u ∈ db.users.rows, u.email ≠ varchar email) := by
  rw [Answers, createUser, wp_bind]
  refine (wp_insertUser hbcrypt hfresh fun _ _ => trivial).trans (imp_congr_right fun _ => ?_)
  exact and_iff_right (by decide)

theorem changeRole_answers (h : db.Coherent) : Answers (changeRole userId role) ctx db := by
  simp only [Answers, changeRole, wp_bind, wp_getUserOr404, UserRepository.wp_update, wp_pure, and_true]
  intro u hu
  obtain rfl : u.id = userId := Table.get?_key hu
  exact h.flushed_user_ok hu rfl ⟨rfl, rfl, rfl⟩

theorem deactivate_answers (h : db.Coherent) : Answers (deactivate userId) ctx db := by
  simp only [Answers, deactivate, wp_bind, wp_getUserOr404, UserRepository.wp_hasActiveDevicesOrRequests,
    wp_raiseIf, Failure.isApp_conflict, implies_true, true_and, UserRepository.wp_update, wp_pure, and_true]
  intro u hu _
  obtain rfl : u.id = userId := Table.get?_key hu
  exact h.flushed_user_ok hu rfl ⟨rfl, rfl, rfl⟩

theorem activate_answers (h : db.Coherent) : Answers (activate userId) ctx db := by
  simp only [Answers, activate, wp_bind, wp_getUserOr404, UserRepository.wp_update, wp_pure, and_true]
  intro u hu
  obtain rfl : u.id = userId := Table.get?_key hu
  exact h.flushed_user_ok hu rfl ⟨rfl, rfl, rfl⟩

end UserService

theorem AuthService.register_answers {name email password : String} {role : UserRole} (hbcrypt : ctx.Bcrypt)
    (hfresh : db.users.get? (ctx.uuid4 0) = none) : Answers (register name email role password) ctx db ↔
      ((∀ u ∈ db.users.rows, u.email ≠ email) → password.utf8ByteSize ≤ 72 ∧
        (Storable name ∧ Storable email) ∧ ∀ u ∈ db.users.rows, u.email ≠ varchar email) := by
  rw [Answers, register, wp_bind]
  refine UserService.wp_insertUser hbcrypt hfresh fun u s => ?_
  simp only [createAccessToken, createRefreshToken, createToken, wp_bind, wp_ask, wp_utcNow, wp_pure]

end AssetPilot
