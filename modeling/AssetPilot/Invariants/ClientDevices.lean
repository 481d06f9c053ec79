import AssetPilot.Effects.Items
import AssetPilot.Invariants.Ownership

/-!
# Client-only attributes

`create_item` and its schema tie `client_name` to `owner_type`. The other writers of the two attributes do not
look at `owner_type`: an edit writes any `client_name`, the manual override and a swap any status.
-/

namespace AssetPilot

open Relational System Txn

variable {ctx : Ctx} {db db' : Db} {e : Event}

/-- A client is named. -/
def NamesClient (clientName : Option String) : Prop := ∃ c ∈ clientName, c ≠ ""

instance (clientName : Option String) : Decidable (NamesClient clientName) :=
  inferInstanceAs (Decidable (∃ c ∈ _, _))

/-- Blanks that a column cuts off do not name a client. -/
theorem namesClient_column {old : Option (Option String)} {c : Option String} :
    NamesClient (varcharColumn? old c) ↔ NamesClient c := by
  unfold varcharColumn?
  split_ifs
  · exact Iff.rfl
  · simp [NamesClient, varchar_eq_empty_iff]

/-- The client is named, and the device given back to it, only where a client owns the device. -/
structure Item.ClientFields (i : Item) : Prop where
  named : NamesClient i.clientName ↔ i.ownerType = .client
  returned : i.status = .returnedToClient → i.ownerType = .client

instance (i : Item) : Decidable i.ClientFields :=
  decidable_of_iff ((NamesClient i.clientName ↔ i.ownerType = .client) ∧
    (i.status = .returnedToClient → i.ownerType = .client)) ⟨fun ⟨h₁, h₂⟩ => ⟨h₁, h₂⟩, fun h => ⟨h.1, h.2⟩⟩

def Db.ClientFields (db : Db) : Prop := ∀ i ∈ db.items.rows, i.ClientFields

instance (db : Db) : Decidable db.ClientFields := inferInstanceAs (Decidable (∀ i ∈ _, _))

/-- An edited `client_name` fits the owner of the device, and only the device of a client is given back, by
the override or by a swap. -/
def Op.KeepsClientFields (db : Db) : Op → Prop
  | .editItem itemId updates _ => ∀ i ∈ db.items.get? itemId, db.categories.References updates.categoryId →
      ∀ c ∈ updates.clientName, (NamesClient c ↔ i.ownerType = .client)
  | .changeStatus itemId status _ _ => status = .returnedToClient →
      ∀ i ∈ db.items.get? itemId, i.ownerType = .client
  | .resolve ticketId .swapped _ newId oldItemNextStatus _ => oldItemNextStatus = some .returnedToClient →
      ∀ i n, db.Swaps ticketId newId i n → i.ownerType = .client
  | _ => True

def Event.KeepsClientFields (db : Db) : Event → Prop
  | .service _ op => op.KeepsClientFields db
  | .portal _ _ => True

/-! ### One event -/

theorem Item.ClientFields.withStatus_iff {i : Item} (h : i.ClientFields) (s : DeviceStatus) (o : Option UUID) :
    ({ i with status := s, currentOwnerId := o } : Item).ClientFields ↔
      (s = .returnedToClient → i.ownerType = .client) :=
  ⟨fun h' => h'.returned, fun hs => ⟨h.named, hs⟩⟩

theorem Item.ClientFields.withStatus {i : Item} (h : i.ClientFields) {s : DeviceStatus} {o : Option UUID}
    (hs : s ≠ .returnedToClient) : ({ i with status := s, currentOwnerId := o } : Item).ClientFields :=
  (h.withStatus_iff s o).mpr fun hs' => absurd hs' hs

theorem CompleteReturnRequest.ne_returnedToClient {s : DeviceStatus} (h : CompleteReturnRequest s) :
    s ≠ .returnedToClient := by
  rintro rfl
  exact absurd h (by decide)

theorem CreateItemRequest.clientFields {ctx : Ctx} {name serialNo : String} {categoryId : UUID}
    {ownerType : OwnerType} {clientName : Option String} {date : Option Date} {u : Datetime}
    (h : CreateItemRequest ownerType clientName) :
    ({ (Model.assign none (InventoryService.newItem (ctx.uuid4 0) (ctx.uuid4 1) name serialNo categoryId ownerType
        clientName date) : Item) with createdAt := u, updatedAt := u } : Item).ClientFields where
  named := by
    simp only [Item.assign_clientName, Item.assign_ownerType, namesClient_column]
    cases ownerType with
    | company => simp [InventoryService.newItem, NamesClient]
    | client =>
      cases clientName with
      | none => exact absurd ⟨rfl, .inl rfl⟩ h
      | some c =>
        refine iff_of_true ⟨c, rfl, fun hempty => h ⟨rfl, .inr (congrArg some hempty)⟩⟩ rfl
  returned hstatus := absurd hstatus (of_decide_eq_false rfl)

theorem SupportService.swap_keepsClientFields_iff (h : db.ClientFields) {ticketId actorId : UUID}
    {note : Option String} {newId : Option UUID} {next : Option DeviceStatus} {row : SupportRequest}
    (hruns : (resolve ticketId .swapped note newId next actorId).Runs ctx db row db') :
    (∀ i ∈ db.items.rows, ((Op.resolve ticketId .swapped note newId next actorId).itemAfter db i).ClientFields) ↔
      (Op.resolve ticketId .swapped note newId next actorId).KeepsClientFields db := by
  obtain ⟨i, n, hswaps, hticket, hi, rfl, hne, s, rfl⟩ := swaps_of_runs hruns
  constructor
  · rintro hafter hs j m hj
    obtain rfl := Option.some.inj hs
    obtain ⟨hticketj, hj⟩ := hj.ticketItem
    have hid : j.id = i.id := Option.some.inj (hticketj.symm.trans hticket)
    have hreleased := hafter j (Table.get?_mem hj)
    rw [Op.itemAfter, if_neg (hid ▸ hne.symm), if_pos hticketj] at hreleased
    exact hreleased.returned rfl
  · intro hkeeps j hj
    rw [Op.itemAfter]
    split
    · exact (h j hj).withStatus (by decide)
    · split
      · next hticketj =>
        have hid : i.id = j.id := Option.some.inj (hticket.symm.trans hticketj)
        obtain rfl : i = j := Option.some.inj (hi.symm.trans (hid ▸ Table.mem_iff_get?.mp hj))
        exact ((h i hj).withStatus_iff _ _).mpr fun hs => hkeeps (congrArg some hs) i n hswaps
      · exact h j hj

theorem Op.keepsClientFields_iff {op : Op} (h : db.ClientFields) (hadmitted : op.Admitted)
    (hruns : op.run.Runs ctx db () db') :
    (∀ i ∈ db.items.rows, (op.itemAfter db i).ClientFields) ↔ op.KeepsClientFields db := by
  cases op with
  | editItem itemId updates actorId =>
    obtain ⟨row, hruns⟩ := runs_discard.mp hruns
    obtain ⟨_, -, hcategory, -⟩ := InventoryService.runs_editItem.mp hruns
    constructor
    · intro hafter i hi _ c hc
      have hid : i.id = itemId := Table.get?_key hi
      have hedited := hafter i (Table.get?_mem hi)
      rw [Op.itemAfter, if_pos hid] at hedited
      have hnamed := namesClient_column.symm.trans hedited.named
      rwa [InventoryService.editedItem, hc, Option.getD_some] at hnamed
    · intro hkeeps i hi
      rw [Op.itemAfter]
      split
      · next hid =>
        refine ⟨namesClient_column.trans ?_, (h i hi).returned⟩
        cases hc : updates.clientName with
        | none => simpa [InventoryService.editedItem, hc] using (h i hi).named
        | some c =>
          have hstored : db.items.get? itemId = some i := hid ▸ Table.mem_iff_get?.mp hi
          simpa [InventoryService.editedItem, hc] using hkeeps i hstored hcategory c hc
      · exact h i hi
  | changeStatus itemId status note actorId =>
    constructor
    · intro hafter hstatus i hi
      have hid : i.id = itemId := Table.get?_key hi
      have hturned := hafter i (Table.get?_mem hi)
      rw [Op.itemAfter, if_pos hid] at hturned
      exact hturned.returned hstatus
    · intro hkeeps i hi
      rw [Op.itemAfter]
      split
      · next hid =>
        have hstored : db.items.get? itemId = some i := hid ▸ Table.mem_iff_get?.mp hi
        exact ((h i hi).withStatus_iff _ _).mpr fun hstatus => hkeeps hstatus i hstored
      · exact h i hi
  | resolve ticketId resolution note newId next actorId =>
    cases resolution with
    | remoteResolved => exact iff_of_true h trivial
    | repairedInPlace | markedLost =>
      refine iff_of_true (fun i hi => ?_) trivial
      rw [Op.itemAfter]
      split
      · exact (h i hi).withStatus (by decide)
      · exact h i hi
    | swapped =>
      obtain ⟨row, hruns⟩ := runs_discard.mp hruns
      exact SupportService.swap_keepsClientFields_iff h hruns
  | completeReturn requestId next actorId =>
    refine iff_of_true (fun i hi => ?_) trivial
    rw [Op.itemAfter]
    split
    · exact (h i hi).withStatus (CompleteReturnRequest.ne_returnedToClient hadmitted)
    · exact h i hi
  | assign | directAssign | ship | confirmDelivery | start =>
    refine iff_of_true (fun i hi => ?_) trivial
    rw [Op.itemAfter]
    split
    · exact (h i hi).withStatus (by decide)
    · exact h i hi
  | _ => exact iff_of_true h trivial

theorem PortalStep.clientFields (h : db.ClientFields) (step : PortalStep) :
    ∀ i ∈ db.items.rows, ((Event.portal ctx step).itemAfter db i).ClientFields := by
  intro i hi
  cases step with
  | initiateReturn =>
    rw [Event.itemAfter]
    split
    · exact (h i hi).withStatus (by decide)
    · exact h i hi
  | _ => exact h i hi

/-- **One event keeps the law** exactly when it meets the condition. -/
theorem Db.ClientFields.step_iff (h : db.ClientFields) (hadmitted : e.Admitted) (hcommits : e.Commits db db') :
    db'.ClientFields ↔ e.KeepsClientFields db := by
  have hiff : db'.ClientFields ↔ ∀ i ∈ db.items.rows, (e.itemAfter db i).ClientFields := by
    refine hcommits.items.forall_iff (fun i u => ⟨fun h => ⟨h.1, h.2⟩, fun h => ⟨h.1, h.2⟩⟩) fun i u hnew => ?_
    cases e with
    | service ctx op =>
      cases op with
      | createItem =>
        obtain rfl := Option.some.inj hnew
        exact CreateItemRequest.clientFields hadmitted
      | _ => exact absurd hnew (Option.some_ne_none _).symm
    | portal => exact absurd hnew (Option.some_ne_none _).symm
  refine hiff.trans ?_
  cases hcommits with
  | service hruns => exact Op.keepsClientFields_iff h hadmitted hruns
  | portal => exact iff_of_true (PortalStep.clientFields h _) trivial

/-! ### Runs -/

/-- **Client-only attributes stay on client devices**, in every state of a run whose edits, overrides and
swaps meet the condition, and the next admitted event breaks that exactly when it does not meet it. -/
theorem clientFields_of_run (h : db.ClientFields)
    (run : Run Step (fun db e => e.Admitted ∧ e.KeepsClientFields db) db db') :
    db'.ClientFields ∧ ∀ (e : Event) db'', e.Admitted → e.Commits db' db'' →
      (db''.ClientFields ↔ e.KeepsClientFields db') := by
  obtain ⟨-, hlaw, hexact⟩ := exact_of_run (I := fun _ => True) (P := Db.ClientFields) (fun hok => hok)
    (fun _ _ _ => trivial) (fun _ hadmitted hcommits hlaw => hlaw.step_iff hadmitted hcommits) trivial h run
  exact ⟨hlaw, hexact⟩

/-- A client's laptop is bought, and given back to the client. -/
def Sample.lease : List Event :=
  [call (.createItem "Laptop" "C-1" 1 .client (some "Acme") none 9),
    call (.changeStatus 100 .returnedToClient none 9)]

theorem clientFields_of_run_lease :
    (Sample.after Sample.lease).ClientFields ∧
      (((Sample.call (.changeStatus 1 .returnedToClient none 9)).exec (Sample.after Sample.lease)).ClientFields ↔
        (Op.changeStatus 1 .returnedToClient none 9).KeepsClientFields (Sample.after Sample.lease)) := by
  have hreturned : (Op.changeStatus 100 .returnedToClient none 9).KeepsClientFields
      ((Sample.call (.createItem "Laptop" "C-1" 1 .client (some "Acme") none 9)).exec Sample.store) := by
    intro _ i hi
    obtain rfl := Option.some.inj hi
    rfl
  have run : Run Step (fun db e => e.Admitted ∧ e.KeepsClientFields db) Sample.store
      (Sample.after Sample.lease) :=
    .step (.step .refl (Sample.call (.createItem "Laptop" "C-1" 1 .client (some "Acme") none 9))
      ⟨by decide, trivial⟩ rfl)
      (Sample.call (.changeStatus 100 .returnedToClient none 9)) ⟨by decide, hreturned⟩ rfl
  have hlaw := clientFields_of_run (by decide : Sample.store.ClientFields) run
  exact ⟨hlaw.1, hlaw.2 (Sample.call (.changeStatus 1 .returnedToClient none 9)) _ (by decide) (.service rfl)⟩

/-- Laptop 1, which the company owns, gets a client's name, or is given back to a client; laptop 2 is given
back by a swap. -/
theorem not_clientFields :
    Sample.store.ClientFields ∧
      ∀ op ∈ [Op.editItem 1 { clientName := some (some "Acme") } 9, .changeStatus 1 .returnedToClient none 9,
          .resolve 1 .swapped none (some 1) (some .returnedToClient) 9],
        op.Admitted ∧ ¬ ((Sample.call op).exec Sample.store).ClientFields := by
  decide

end AssetPilot
