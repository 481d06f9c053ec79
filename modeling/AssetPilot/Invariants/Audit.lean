import AssetPilot.Invariants.Timeline

/-!
# The audit log is complete

Every call that writes an item appends a row of that item in the same transaction. `AuditedBy` says what
the rows of one call have to do with the stores before and after it; the operations differ only in the
items they write and in the rows that speak about a change of status.
-/

namespace AssetPilot

open Relational Txn
open SQLAlchemyRepository (flushed)
open DeviceLogService (AppendArgs)

variable {ctx : Ctx} {db db' : Db} {itemId requestId actorId : UUID}

/-- The columns whose changes have to be logged are the same. -/
def Item.SameAudited (i i' : Item) : Prop :=
  i'.status = i.status ∧ i'.currentOwnerId = i.currentOwnerId ∧ i'.name = i.name ∧
    i'.categoryId = i.categoryId ∧ i'.clientName = i.clientName ∧ i'.purchaseDate = i.purchaseDate

/-- The item `d` is new in `db'`, or an audited column of it differs. -/
def Db.Touched (db db' : Db) (d : UUID) : Prop :=
  ∃ i', db'.items.get? d = some i' ∧ ∀ i, db.items.get? d = some i → ¬ i.SameAudited i'

/-- The system closes tickets by itself; every other row is the caller's. -/
def DeviceLog.Attributed (caller : Option UUID) (l : DeviceLog) : Prop :=
  if l.eventType = .supportAutoClosed then l.actorRole = .system ∧ l.actorId = none
  else l.actorRole = .itAdmin ∧ l.actorId ≠ none ∧ l.actorId = caller

/-- A row with an old and a new status has those of its item. -/
def DeviceLog.Truthful (db db' : Db) (l : DeviceLog) : Prop :=
  ∀ s s', l.fromValue = some s → l.toValue = some s' →
    (∃ i, db.items.get? l.itemId = some i ∧ i.status.value = s) ∧
      ∃ i', db'.items.get? l.itemId = some i' ∧ i'.status.value = s'

/-- `rows` is what a call of `caller` between `db` and `db'` appended, and accounts for what it wrote. -/
structure AuditedBy (caller : Option UUID) (rows : List DeviceLog) (db db' : Db) : Prop where
  appended : db'.deviceLog = db.deviceLog ++ rows
  covered : ∀ d, db.Touched db' d → ∃ l ∈ rows, l.itemId = d
  attributed : ∀ l ∈ rows, l.Attributed caller
  truthful : ∀ l ∈ rows, l.Truthful db db'

/-- The `actor_id` that the call is made with. -/
def Op.caller : Op → Option UUID
  | .createItem _ _ _ _ _ _ actorId | .editItem _ _ actorId | .changeStatus _ _ _ actorId
  | .assign _ _ _ _ _ actorId | .directAssign _ _ _ _ actorId | .reject _ _ _ actorId
  | .cancel _ _ actorId | .ship _ _ actorId | .confirmDelivery _ actorId | .completeReturn _ _ actorId
  | .start _ actorId | .resolve _ _ _ _ _ actorId | .approveExtension _ _ actorId
  | .rejectExtension _ _ actorId => some actorId
  | .updateBookingRange .. | .escalateToManager .. | .createUser .. | .changeRole .. | .deactivate ..
  | .activate .. | .register .. => none

/-! ### Rows -/

/-- The row does not say both what was before and what is after. -/
def DeviceLog.Quiet (l : DeviceLog) : Prop := l.fromValue = none ∨ l.toValue = none

/-- The row says that the item `i` has become `i'`. -/
def DeviceLog.Reports (i i' : Item) (l : DeviceLog) : Prop :=
  l.itemId = i.id ∧ l.fromValue = some i.status.value ∧ l.toValue = some i'.status.value

theorem DeviceLog.Quiet.truthful {l : DeviceLog} (h : l.Quiet) : l.Truthful db db' := by
  intro s s' hs hs'
  rcases h with hnone | hnone
  · exact absurd (hnone.symm.trans hs) (Option.some_ne_none s).symm
  · exact absurd (hnone.symm.trans hs') (Option.some_ne_none s').symm

theorem DeviceLog.Reports.truthful {i i' : Item} {l : DeviceLog} (h : l.Reports i i')
    (hi : db.items.get? i.id = some i) (hi' : db'.items.get? i.id = some i') : l.Truthful db db' := by
  obtain ⟨hitem, hfrom, hto⟩ := h
  intro s s' hs hs'
  obtain rfl := Option.some.inj (hfrom.symm.trans hs)
  obtain rfl := Option.some.inj (hto.symm.trans hs')
  exact ⟨⟨i, hitem ▸ hi, rfl⟩, i', hitem ▸ hi', rfl⟩

theorem DeviceLogService.AppendArgs.attributed {a : AppendArgs}
    (hevent : decide (a.eventType = .supportAutoClosed) = false) (hrole : a.actorRole = .itAdmin)
    (hactor : a.actorId = some actorId) : (a.written ctx).Attributed (some actorId) := by
  refine (if_neg (of_decide_eq_false hevent : ¬ (a.written ctx).eventType = _)).mpr ⟨hrole, ?_, hactor⟩
  exact fun hnone => Option.some_ne_none actorId (hactor.symm.trans hnone)

theorem covered_of_others (ids : List UUID) {rows : List DeviceLog}
    (hothers : ∀ d, d ∉ ids → db'.items.get? d = db.items.get? d)
    (hrows : ∀ d ∈ ids, ∃ l ∈ rows, l.itemId = d) : ∀ d, db.Touched db' d → ∃ l ∈ rows, l.itemId = d := by
  rintro d ⟨i', hi', htouched⟩
  by_cases hd : d ∈ ids
  · exact hrows d hd
  · exact absurd ⟨rfl, rfl, rfl, rfl, rfl, rfl⟩ (htouched i' ((hothers d hd).symm.trans hi'))

/-! ### Calls that write no item, and calls that write one -/

theorem AuditedBy.of_items {caller : Option UUID} {rows : List DeviceLog} (hitems : db'.items = db.items)
    (hlog : db'.deviceLog = db.deviceLog ++ rows) (hattributed : ∀ l ∈ rows, l.Attributed caller)
    (hquiet : ∀ l ∈ rows, l.Quiet) : AuditedBy caller rows db db' where
  appended := hlog
  covered := by
    refine covered_of_others [] (fun d _ => ?_) fun d hd => absurd hd List.not_mem_nil
    rw [hitems]
  attributed := hattributed
  truthful l hl := (hquiet l hl).truthful

theorem AuditedBy.of_eq {caller : Option UUID} (hitems : db'.items = db.items)
    (hlog : db'.deviceLog = db.deviceLog) : AuditedBy caller [] db db' :=
  .of_items hitems (by rw [hlog, List.append_nil]) (fun _ hl => absurd hl List.not_mem_nil)
    (fun _ hl => absurd hl List.not_mem_nil)

/-- **A call that writes one item**, with a row of it; a row that says both statuses reports this write. -/
theorem AuditedBy.of_write {caller : Option UUID} {rows : List DeviceLog} {i i' : Item}
    (hi : db.items.get? itemId = some i) (hid : i'.id = itemId) (hitems : db'.items = db.items.set i')
    (hlog : db'.deviceLog = db.deviceLog ++ rows) (hrow : ∃ l ∈ rows, l.itemId = itemId)
    (hattributed : ∀ l ∈ rows, l.Attributed caller) (hrows : ∀ l ∈ rows, l.Quiet ∨ l.Reports i i') :
    AuditedBy caller rows db db' := by
  obtain rfl : i.id = itemId := Table.get?_key hi
  have hget : ∀ d, db'.items.get? d = if d = i'.id then some i' else db.items.get? d := by
    rw [hitems]
    exact Table.get?_set_of_get? (show db.items.get? i'.id = some i from hid.symm ▸ hi)
  have hi' : db'.items.get? i.id = some i' := (hget i.id).trans (if_pos hid.symm)
  refine ⟨hlog, ?_, hattributed, fun l hl => ?_⟩
  · refine covered_of_others [i.id] (fun d hd => ?_) fun d hd => ?_
    · exact (hget d).trans (if_neg fun he => hd (List.mem_singleton.mpr (he.trans hid)))
    · exact List.mem_singleton.mp hd ▸ hrow
  · rcases hrows l hl with hquiet | hreports
    · exact hquiet.truthful
    · exact hreports.truthful hi hi'

/-! ### The calls -/

theorem AuditedBy.of_report {a : AppendArgs} {i i' : Item} (hi : db.items.get? itemId = some i)
    (hid : i'.id = itemId) (hitems : db'.items = db.items.set i')
    (hlog : db'.deviceLog = db.deviceLog ++ [a.written ctx])
    (hattributed : (a.written ctx).Attributed (some actorId)) (hitem : a.itemId = itemId)
    (hfrom : a.fromValue = some i.status.value) (hto : a.toValue = some i'.status.value) :
    AuditedBy (some actorId) [a.written ctx] db db' := by
  have hiid : i.id = itemId := Table.get?_key hi
  refine .of_write hi hid hitems hlog ⟨_, List.mem_singleton_self _, hitem⟩ (fun l hl => ?_) fun l hl => ?_
  · rwa [List.mem_singleton.mp hl]
  · rw [List.mem_singleton.mp hl]
    exact .inr ⟨hitem.trans hiid.symm, hfrom, hto⟩

namespace InventoryService

theorem statusEvent_ne_autoClosed (s : DeviceStatus) : _STATUS_EVENT_MAP s ≠ .supportAutoClosed := by
  cases s <;> decide

theorem createItem_audited {name serialNo : String} {categoryId : UUID} {ownerType : OwnerType}
    {clientName : Option String} {date : Option Date} {row : Item}
    (h : (createItem name serialNo categoryId ownerType clientName date actorId).Runs ctx db row db') :
    ∃ rows, AuditedBy (some actorId) rows db db' := by
  obtain ⟨-, -, hfresh, i, hi, -, -, -, rfl⟩ := runs_createItem.mp h
  have hfresh' : db.items.get? i.id = none := hi ▸ hfresh
  refine ⟨_, rfl, ?_, fun l hl => ?_, fun l hl => ?_⟩
  · refine covered_of_others [i.id] (fun d hd => ?_) fun d hd => ⟨_, List.mem_singleton_self _, ?_⟩
    · exact (Table.get?_insert hfresh' d).trans (if_neg fun he => hd (List.mem_singleton.mpr he))
    · exact (List.mem_singleton.mp hd).symm
  · rw [List.mem_singleton.mp hl]
    exact AppendArgs.attributed rfl rfl rfl
  · rw [List.mem_singleton.mp hl]
    exact DeviceLog.Quiet.truthful (.inl rfl)

theorem getD_of_fieldChange {β : Type} [DecidableEq β] {field : String} {jsonable : β → Option String}
    {oldValue : β} {newValue : Option β} (h : fieldChange field jsonable oldValue newValue = []) :
    newValue.getD oldValue = oldValue := by
  cases newValue with
  | none => rfl
  | some v =>
    rw [fieldChange] at h
    split at h
    · assumption
    · exact absurd h (List.cons_ne_nil _ _)

theorem sameAudited_of_itemChanges {item : Item} {updates : ItemUpdates}
    (h : itemChanges item updates = []) : item.SameAudited (editedItem item updates) := by
  simp only [itemChanges, List.append_eq_nil_iff] at h
  obtain ⟨⟨⟨hname, hcategory⟩, hclient⟩, hdate⟩ := h
  exact ⟨rfl, rfl, getD_of_fieldChange hname, getD_of_fieldChange hcategory, getD_of_fieldChange hclient,
    getD_of_fieldChange hdate⟩

theorem editItem_audited {updates : ItemUpdates} {row : Item}
    (h : (editItem itemId updates actorId).Runs ctx db row db') :
    ∃ rows, AuditedBy (some actorId) rows db db' := by
  obtain ⟨i, hi, -, i', hi', -, ⟨_, hlog⟩, -⟩ := runs_editItem.mp h
  have hid : i'.id = itemId := hi' ▸ Table.get?_key hi
  rcases runs_logChanges.mp hlog with ⟨hnone, rfl⟩ | ⟨-, -, rfl⟩
  · -- the row is written, and no audited column differs
    have hsame : i.SameAudited i' := by
      obtain ⟨hstatus, howner, hname, hcategory, hclient, hdate⟩ := sameAudited_of_itemChanges hnone
      have hkey : i.id = itemId := Table.get?_key hi
      have hstored : db.items.get? (editedItem i updates).id = some i := (congrArg db.items.get? hkey).trans hi
      rw [hi', Item.flushed_of_texts hstored ⟨hname, rfl, hclient⟩]
      exact ⟨hstatus, howner, hname, hcategory, hclient, hdate⟩
    refine ⟨[], (List.append_nil _).symm, ?_, fun _ hl => absurd hl List.not_mem_nil,
      fun _ hl => absurd hl List.not_mem_nil⟩
    rintro d ⟨x, hx, htouched⟩
    rw [show (db.setItem i').items.get? d = _ from Table.get?_set_of_get? (hid.symm ▸ hi) d] at hx
    split at hx
    · next hd =>
      obtain rfl := Option.some.inj hx
      exact absurd hsame (htouched i (hd.trans hid ▸ hi))
    · exact absurd ⟨rfl, rfl, rfl, rfl, rfl, rfl⟩ (htouched x hx)
  · refine ⟨_, .of_write hi hid rfl rfl ⟨_, List.mem_singleton_self _, hid⟩ (fun l hl => ?_) fun l hl => ?_⟩
    · rw [List.mem_singleton.mp hl]
      exact AppendArgs.attributed rfl rfl rfl
    · rw [List.mem_singleton.mp hl]
      exact .inl (.inl rfl)

theorem changeStatus_audited {status : DeviceStatus} {note : Option String} {row : Item}
    (h : (changeStatus itemId status note actorId).Runs ctx db row db') :
    ∃ rows, AuditedBy (some actorId) rows db db' := by
  obtain ⟨i, hi, i', hi', -, l, rfl, -, -, rfl⟩ := runs_changeStatus.mp h
  have hid : i'.id = itemId := hi' ▸ Table.get?_key hi
  refine ⟨_, .of_report hi hid rfl rfl ?_ hid rfl (hi' ▸ rfl)⟩
  exact AppendArgs.attributed (decide_eq_false (statusEvent_ne_autoClosed status)) rfl rfl

end InventoryService

theorem AssignmentService.assign_audited {f t : Datetime} {wfh : Bool} {row : Request}
    (h : (assign requestId itemId f t wfh actorId).Runs ctx db row db') :
    ∃ rows, AuditedBy (some actorId) rows db db' := by
  obtain ⟨r, -, -, i, hi, havail, -, -, r', -, -, i', hi', -, -, -, rfl⟩ := runs_assign.mp h
  have hid : i'.id = itemId := hi' ▸ Table.get?_key hi
  refine ⟨_, .of_report hi hid rfl rfl ?_ (Table.get?_key hi) (havail ▸ rfl) (hi' ▸ rfl)⟩
  exact AppendArgs.attributed rfl rfl rfl

theorem AssignmentService.directAssign_audited {employeeId : UUID} {f t : Datetime} {row : Request}
    (h : (directAssign itemId employeeId f t actorId).Runs ctx db row db') :
    ∃ rows, AuditedBy (some actorId) rows db db' := by
  obtain ⟨i, hi, -, havail, -, u, -, -, r', -, -, -, i', hi', -, -, -, rfl⟩ := runs_directAssign.mp h
  have hid : i'.id = itemId := hi' ▸ Table.get?_key hi
  refine ⟨_, .of_report hi hid rfl rfl ?_ (Table.get?_key hi) (havail ▸ rfl) (hi' ▸ rfl)⟩
  exact AppendArgs.attributed rfl rfl rfl

namespace ShippingService

theorem ship_audited {url : String} {row : Request} (h : (ship requestId url actorId).Runs ctx db row db') :
    ∃ rows, AuditedBy (some actorId) rows db db' := by
  obtain ⟨r, -, -, i, ⟨d, -, hi⟩, hstatus, r', -, -, i', hi', -, l, rfl, -, -, rfl⟩ := runs_ship.mp h
  have hid : i'.id = d := hi' ▸ Table.get?_key hi
  refine ⟨_, .of_report hi hid rfl rfl ?_ (Table.get?_key hi) (hstatus ▸ rfl) (hi' ▸ rfl)⟩
  exact AppendArgs.attributed rfl rfl rfl

theorem confirmDelivery_audited {row : Request} (h : (confirmDelivery requestId actorId).Runs ctx db row db') :
    ∃ rows, AuditedBy (some actorId) rows db db' := by
  obtain ⟨r, -, i, ⟨d, -, hi⟩, hstatus, r', -, -, i', hi', -, l, rfl, -, -, rfl⟩ := runs_confirmDelivery.mp h
  have hid : i'.id = d := hi' ▸ Table.get?_key hi
  refine ⟨_, .of_report hi hid rfl rfl ?_ (Table.get?_key hi) (hstatus ▸ rfl) (hi' ▸ rfl)⟩
  exact AppendArgs.attributed rfl rfl rfl

theorem completeReturn_audited {next : DeviceStatus} {row : Request}
    (h : (completeReturn requestId next actorId).Runs ctx db row db') :
    ∃ rows, AuditedBy (some actorId) rows db db' := by
  obtain ⟨r, -, i, ⟨d, -, hi⟩, -, r', -, -, i', hi', -, l, rfl, -, l', rfl, -, ⟨_, hclose⟩, -⟩ :=
    runs_completeReturn.mp h
  have hid : i'.id = d := hi' ▸ Table.get?_key hi
  have hiid : i.id = d := Table.get?_key hi
  obtain ⟨ts, -, hclosed⟩ := runs_autoCloseOpenSupport hclose
  have hlog : db'.deviceLog = db.deviceLog ++
      (shippingLog .returnReceived i'.id r'.id actorId i.status next none).written ctx ::
        (completionLog i'.id r'.id actorId).written ctx ::
          ts.map fun t => (closedLog i'.id t.id).written ctx := by
    rw [hclosed.deviceLog]
    exact (List.append_assoc _ _ _).trans (List.append_assoc _ _ _)
  refine ⟨_, .of_write hi hid hclosed.items hlog ⟨_, List.mem_cons_self, hid⟩ (fun l hl => ?_)
    fun l hl => ?_⟩
  · rcases List.mem_cons.mp hl with rfl | hl
    · exact AppendArgs.attributed rfl rfl rfl
    rcases List.mem_cons.mp hl with rfl | hl
    · exact AppendArgs.attributed rfl rfl rfl
    · obtain ⟨t, -, rfl⟩ := List.mem_map.mp hl
      exact (if_pos rfl).mpr ⟨rfl, rfl⟩
  · rcases List.mem_cons.mp hl with rfl | hl
    · exact .inr ⟨hid.trans hiid.symm, rfl, hi' ▸ rfl⟩
    rcases List.mem_cons.mp hl with rfl | hl
    · exact .inl (.inl rfl)
    · obtain ⟨t, -, rfl⟩ := List.mem_map.mp hl
      exact .inl (.inl rfl)

end ShippingService

namespace SupportService

variable {ticketId : UUID} {row : SupportRequest}

theorem start_audited (h : (start ticketId actorId).Runs ctx db row db') :
    ∃ rows, AuditedBy (some actorId) rows db db' := by
  obtain ⟨t, -, -, t', -, -, ⟨_, hrepair⟩, -⟩ := runs_start.mp h
  rcases runs_startRepair.mp hrepair with ⟨-, rfl⟩ | ⟨-, i, hi, i', hi', -, l, rfl, -, rfl⟩
  · exact ⟨[], .of_eq rfl rfl⟩
  · have hid : i'.id = t'.itemId := hi' ▸ Table.get?_key hi
    refine ⟨_, .of_report hi hid rfl rfl ?_ (Table.get?_key hi) rfl (hi' ▸ rfl)⟩
    exact AppendArgs.attributed rfl rfl rfl

theorem resolved_audited {rows : List DeviceLog} {db₁ : Db} {t' : SupportRequest} {d p : UUID}
    (h : AuditedBy (some actorId) rows db db₁) :
    ∃ rows, AuditedBy (some actorId) rows db
      ((db₁.setSupportRequest t').appendLog ((resolvedLog d p actorId).written ctx)) := by
  refine ⟨rows ++ [(resolvedLog d p actorId).written ctx], ?_, fun d hd => ?_, fun l hl => ?_,
    fun l hl => ?_⟩
  · rw [← List.append_assoc, ← h.appended]
    rfl
  · obtain ⟨l, hl, hitem⟩ := h.covered d hd
    exact ⟨l, List.mem_append_left _ hl, hitem⟩
  · rcases List.mem_append.mp hl with hl | hl
    · exact h.attributed l hl
    · rw [List.mem_singleton.mp hl]
      exact AppendArgs.attributed rfl rfl rfl
  · rcases List.mem_append.mp hl with hl | hl
    · exact h.truthful l hl
    · rw [List.mem_singleton.mp hl]
      exact DeviceLog.Quiet.truthful (.inl rfl)

/-- The swap writes two items, and logs each of them with a row that reports nothing. -/
theorem swap_audited {ticket : SupportRequest} {item : Item} {newId : UUID} {next : DeviceStatus} {u : Unit}
    (h : (swap ticket item newId next actorId).Runs ctx db u db') :
    ∃ rows, AuditedBy (some actorId) rows db db' := by
  obtain ⟨-, p, -, n, -, -, -, r, -, r', -, -, db₁, rfl, o', ho', -, db₂, rfl, n', hn', -, l, rfl, -,
    l', rfl, -, rfl⟩ := runs_swap.mp h
  have hoid : o'.id = item.id := ho' ▸ rfl
  have hnid : n'.id = n.id := hn' ▸ rfl
  refine ⟨[_, _], List.append_assoc _ _ _, ?_, fun l hl => ?_, fun l hl => ?_⟩
  · refine covered_of_others [item.id, n.id] (fun d hd => ?_) fun d hd => ?_
    · simp only [List.mem_cons, List.not_mem_nil, or_false, not_or] at hd
      have hget : ((db.items.set o').set n').get? d = (db.items.set o').get? d :=
        Table.get?_set_of_ne (show d ≠ n'.id from hnid ▸ hd.2)
      exact hget.trans (Table.get?_set_of_ne (show d ≠ o'.id from hoid ▸ hd.1))
    · simp only [List.mem_cons, List.not_mem_nil, or_false] at hd
      rcases hd with rfl | rfl
      · exact ⟨_, List.mem_cons_self, rfl⟩
      · exact ⟨_, List.mem_cons_of_mem _ (List.mem_singleton_self _), rfl⟩
  · simp only [List.mem_cons, List.not_mem_nil, or_false] at hl
    rcases hl with rfl | rfl <;> exact AppendArgs.attributed rfl rfl rfl
  · simp only [List.mem_cons, List.not_mem_nil, or_false] at hl
    rcases hl with rfl | rfl <;> exact DeviceLog.Quiet.truthful (.inl rfl)

theorem resolve_audited {resolution : SupportResolution} {note : Option String} {newId : Option UUID}
    {next : Option DeviceStatus}
    (h : (resolve ticketId resolution note newId next actorId).Runs ctx db row db') :
    ∃ rows, AuditedBy (some actorId) rows db db' := by
  obtain ⟨t, -, -, i, hi, _, db₁, happly, t', -, -, -, -, rfl⟩ := runs_resolve.mp h
  have happly : ∃ rows, AuditedBy (some actorId) rows db db₁ := by
    cases resolution with
    | remoteResolved =>
      simp only [applyResolution, runs_pure] at happly
      obtain ⟨-, rfl⟩ := happly
      exact ⟨[], .of_eq rfl rfl⟩
    | repairedInPlace =>
      obtain ⟨hrepair, i', hi', -, l, rfl, -, rfl⟩ := runs_repairInPlace.mp happly
      have hid : i'.id = t.itemId := hi' ▸ Table.get?_key hi
      refine ⟨_, .of_report hi hid rfl rfl ?_ (Table.get?_key hi) (hrepair ▸ rfl) (hi' ▸ rfl)⟩
      exact AppendArgs.attributed rfl rfl rfl
    | swapped =>
      simp only [applyResolution, runs_bind, runs_orRaise] at happly
      obtain ⟨n, _, ⟨rfl, rfl⟩, s, _, ⟨rfl, rfl⟩, happly⟩ := happly
      exact swap_audited happly
    | markedLost =>
      obtain ⟨p, -, r, -, i', hi', -, r', -, -, l, rfl, -, rfl⟩ := runs_markLost.mp happly
      have hid : i'.id = t.itemId := hi' ▸ Table.get?_key hi
      refine ⟨_, .of_report hi hid rfl rfl ?_ (Table.get?_key hi) rfl (hi' ▸ rfl)⟩
      exact AppendArgs.attributed rfl rfl rfl
  obtain ⟨rows, happly⟩ := happly
  exact resolved_audited happly

end SupportService

namespace ExtensionService

variable {extensionId : UUID} {note : Option String} {row : ExtensionRequest}

theorem decision_audited {event : DeviceLogEvent} {d r x : UUID} (hitems : db'.items = db.items)
    (hlog : db'.deviceLog = db.deviceLog ++ [(decisionLog event d r x actorId).written ctx])
    (hevent : decide (event = .supportAutoClosed) = false) :
    ∃ rows, AuditedBy (some actorId) rows db db' := by
  refine ⟨_, .of_items hitems hlog (fun l hl => ?_) fun l hl => ?_⟩
  · rw [List.mem_singleton.mp hl]
    exact AppendArgs.attributed hevent rfl rfl
  · rw [List.mem_singleton.mp hl]
    exact .inl rfl

theorem approve_audited (h : (approve extensionId note actorId).Runs ctx db row db') :
    ∃ rows, AuditedBy (some actorId) rows db db' := by
  obtain ⟨x, -, -, -, r, -, r', -, -, x', -, -, _, -, l, rfl, -, -, rfl⟩ := runs_approve.mp h
  exact decision_audited rfl rfl rfl

theorem reject_audited (h : (reject extensionId note actorId).Runs ctx db row db') :
    ∃ rows, AuditedBy (some actorId) rows db db' := by
  obtain ⟨x, -, -, r, -, x', -, -, _, -, l, rfl, -, -, rfl⟩ := runs_reject.mp h
  exact decision_audited rfl rfl rfl

end ExtensionService

theorem Op.audited_of_runs {op : Op} (h : op.run.Runs ctx db () db') :
    ∃ rows, AuditedBy op.caller rows db db' := by
  by_cases hleaves : op.leavesItems = true
  · obtain ⟨hitems, hlog⟩ := Op.items_of_leavesItems hleaves h
    exact ⟨[], .of_eq hitems hlog⟩
  cases op <;> obtain ⟨row, h⟩ := runs_discard.mp h
  case createItem => exact InventoryService.createItem_audited h
  case editItem => exact InventoryService.editItem_audited h
  case changeStatus => exact InventoryService.changeStatus_audited h
  case assign => exact AssignmentService.assign_audited h
  case directAssign => exact AssignmentService.directAssign_audited h
  case ship => exact ShippingService.ship_audited h
  case confirmDelivery => exact ShippingService.confirmDelivery_audited h
  case completeReturn => exact ShippingService.completeReturn_audited h
  case start => exact SupportService.start_audited h
  case resolve => exact SupportService.resolve_audited h
  case approveExtension => exact ExtensionService.approve_audited h
  case rejectExtension => exact ExtensionService.reject_audited h
  all_goals exact absurd rfl hleaves

/-- **The audit log is complete**: a call that succeeds appends rows that account for every item it wrote,
and a call that raises changes nothing. -/
theorem auditComplete (ctx : Ctx) (db : Db) (op : Op) :
    (∀ db', op.run.Runs ctx db () db' → ∃ rows, AuditedBy op.caller rows db db') ∧
      ∀ e, op.run.Fails ctx db e → op.run.exec ctx db = db :=
  ⟨fun _ h => Op.audited_of_runs h, fun _ h => h.exec⟩

/-- Laptop 2 comes back, with its ticket still open. -/
theorem auditComplete_return :
    (∃ rows, AuditedBy (some 9) rows Sample.store
      (Sample.after [Sample.call (.completeReturn 2 .available 9)])) ∧
      (Op.completeReturn 1 .available 9).run.exec Sample.ctx Sample.store = Sample.store :=
  ⟨(auditComplete Sample.ctx Sample.store (.completeReturn 2 .available 9)).1 _ rfl,
    (auditComplete Sample.ctx Sample.store (.completeReturn 1 .available 9)).2
      (conflictException "This request has no assigned device.") rfl⟩

end AssetPilot
