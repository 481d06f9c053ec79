import AssetPilot.Effects.Inversion
import AssetPilot.Effects.Items
import AssetPilot.Invariants.Ownership

/-!
# Categories agree

`assign` compares the category of the device with the request's, `direct_assign` copies it, and `_swap`
compares the two devices. `edit_item` looks at no request, so the agreement rests on editing the category only
of devices that nobody has, and on swapping a device only for one of its request's category.
-/

namespace AssetPilot

open Relational Custody System Txn

variable {ctx : Ctx} {db db' : Db} {e : Event}

/-- An assigned request has the category of its device. -/
def Db.CategoryAgrees (db : Db) (r : Request) : Prop :=
  r.status = .assigned → ∀ i ∈ db.items.rows, r.assignedItemId = some i.id → i.categoryId = r.categoryId

def Db.CategoriesAgree (db : Db) : Prop := ∀ r ∈ db.requests.rows, db.CategoryAgrees r

instance (db : Db) (r : Request) : Decidable (db.CategoryAgrees r) :=
  inferInstanceAs (Decidable (_ → ∀ i ∈ _, _ → _))

instance (db : Db) : Decidable db.CategoriesAgree := inferInstanceAs (Decidable (∀ r ∈ _, _))

/-- An edit moves a device to another category only while no assigned request has it; a swap is applied to
an assigned request only when the ticket is about a device of its category. -/
def Op.KeepsCategories (db : Db) : Op → Prop
  | .editItem itemId updates _ => ∀ i ∈ db.items.get? itemId, db.categories.References updates.categoryId →
      ∀ c ∈ updates.categoryId, c ≠ i.categoryId → ∀ r ∈ db.requests.rows, ¬ r.IsBookingFor itemId
  | .resolve ticketId .swapped _ swappedToItemId _ _ =>
      ∀ t ∈ db.supportRequests.get? ticketId, t.status ≠ .resolved →
        ∀ i ∈ db.items.get? t.itemId, ∀ n ∈ swappedToItemId.bind db.items.get?, SwapTarget i n →
          ∀ r ∈ db.tiedRequest t, r.status = .assigned → i.categoryId = r.categoryId
  | _ => True

def Event.KeepsCategories (db : Db) : Event → Prop
  | .service _ op => op.KeepsCategories db
  | .portal _ _ => True

/-! ### Categories of the items -/

theorem Event.itemAfter_categoryId (hedit : ¬ e.EditsItem) (i : Item) :
    (e.itemAfter db i).categoryId = i.categoryId := by
  obtain ⟨s, o, hafter⟩ := Event.itemAfter_eq hedit i
  rw [hafter]

theorem Event.ItemsStep.categoryAgrees_iff (h : e.ItemsStep db db') (hedit : ¬ e.EditsItem) {r : Request}
    (hknown : db.items.References r.assignedItemId) : db'.CategoryAgrees r ↔ db.CategoryAgrees r := by
  constructor
  · intro hagree hassigned i hi hdevice
    obtain ⟨u, hu⟩ := h.stored i (Table.mem_iff_get?.mp hi)
    have hsame := hagree hassigned _ (Table.get?_mem hu) (hdevice.trans (congrArg some (itemAfter_id i).symm))
    exact (itemAfter_categoryId hedit i).symm.trans hsame
  · intro hagree hassigned i' hi' hdevice
    cases hi : db.items.get? i'.id with
    | none => exact absurd hi (hknown i'.id hdevice)
    | some i =>
      have hid : i.id = i'.id := Table.get?_key hi
      have hi' : db'.items.get? i'.id = some i' := Table.mem_iff_get?.mp hi'
      obtain ⟨u, hu⟩ := h.stored i (hid.symm ▸ hi)
      rw [hid, hi'] at hu
      have hsame := hagree hassigned i (Table.get?_mem hi) (hdevice.trans (congrArg some hid.symm))
      rw [Option.some.inj hu]
      exact (itemAfter_categoryId hedit i).trans hsame

theorem known_of_sound (hsound : Sound db.custody) {r : Request} {d : UUID} (hr : r ∈ db.requests)
    (hd : r.assignedItemId = some d) : db.items.get? d ≠ none := by
  have hdevice : db.custody.device d ≠ none := hsound.known (Db.custody_claim (Table.mem_iff_get?.mp hr)) hd
  exact fun hnone => hdevice (Option.map_eq_none_iff.mpr hnone)

/-! ### One event -/

theorem Db.CategoriesAgree.edit_iff (hsound : Sound db.custody) (h : db.CategoriesAgree) {itemId actorId : UUID}
    {updates : InventoryService.ItemUpdates}
    (hcommits : (Event.service ctx (.editItem itemId updates actorId)).Commits db db') :
    db'.CategoriesAgree ↔ (Op.editItem itemId updates actorId).KeepsCategories db := by
  have hitems := hcommits.items
  obtain ⟨hcategory, hrequests⟩ : db.categories.References updates.categoryId ∧ db'.requests = db.requests := by
    obtain ⟨row, hruns⟩ := runs_discard.mp (by cases hcommits; assumption)
    obtain ⟨i, -, hcategory, i', -, -, ⟨_, hlog⟩, -⟩ := InventoryService.runs_editItem.mp hruns
    rcases InventoryService.runs_logChanges.mp hlog with ⟨-, rfl⟩ | ⟨-, -, rfl⟩ <;> exact ⟨hcategory, rfl⟩
  constructor
  · intro hagree i hi _ c hc hne r hr hbooked
    have hid : i.id = itemId := Table.get?_key hi
    obtain ⟨u, hu⟩ := hitems.stored i (hid.symm ▸ hi)
    have hold := h r hr hbooked.2 i (Table.get?_mem hi) (hbooked.1.trans (congrArg some hid.symm))
    have hnew := hagree r (hrequests ▸ hr) hbooked.2 _ (Table.get?_mem hu)
      (hbooked.1.trans (congrArg some (hid.symm.trans (Event.itemAfter_id i).symm)))
    have hcategory : (Event.itemAfter db (.service ctx (.editItem itemId updates actorId)) i).categoryId = c := by
      simp only [Event.itemAfter, Op.itemAfter, if_pos hid, Item.assign_categoryId, InventoryService.editedItem]
      rw [hc, Option.getD_some]
    exact hne (hcategory.symm.trans (hnew.trans hold.symm))
  · intro hkeeps r hr hassigned i' hi' hdevice
    have hr : r ∈ db.requests.rows := hrequests ▸ hr
    have hi' : db'.items.get? i'.id = some i' := Table.mem_iff_get?.mp hi'
    cases hi : db.items.get? i'.id with
    | none => exact absurd hi (known_of_sound hsound hr hdevice)
    | some i =>
      have hid : i.id = i'.id := Table.get?_key hi
      have hold := h r hr hassigned i (Table.get?_mem hi) (hdevice.trans (congrArg some hid.symm))
      obtain ⟨u, hu⟩ := hitems.stored i (hid.symm ▸ hi)
      rw [hid, hi'] at hu
      rw [Option.some.inj hu, ← hold]
      simp only [Event.itemAfter, Op.itemAfter]
      by_cases hitem : i.id = itemId
      · rw [if_pos hitem, Item.assign_categoryId]
        -- the category is kept, or nobody has the device
        by_contra hne
        cases hc : updates.categoryId with
        | none => exact hne (by simp [InventoryService.editedItem, hc])
        | some c =>
          have hci : c ≠ i.categoryId := by simpa [InventoryService.editedItem, hc] using hne
          have hstored : db.items.get? itemId = some i := hitem ▸ hid.symm ▸ hi
          exact hkeeps i hstored hcategory c hc hci r hr
            ⟨hdevice.trans (congrArg some (hid.symm.trans hitem)), hassigned⟩
      · rw [if_neg hitem]

theorem Db.CategoriesAgree.of_swap (h : db'.CategoriesAgree) {ticketId actorId : UUID} {note : Option String}
    {newId : Option UUID} {next : Option DeviceStatus} {row : SupportRequest}
    (hruns : (SupportService.resolve ticketId .swapped note newId next actorId).Runs ctx db row db') :
    (Op.resolve ticketId .swapped note newId next actorId).KeepsCategories db := by
  intro t ht _ i hi _ _ _ r hr hassigned
  obtain ⟨t₀, i₀, n, s, r₀, u, ht₀, -, hi₀, -, -, hn, htarget, htied, hr₀, hr'⟩ := SupportService.swapped_request hruns
  obtain rfl := Option.some.inj (ht₀.symm.trans ht)
  obtain rfl := Option.some.inj (hi₀.symm.trans hi)
  obtain rfl := Option.some.inj ((bind_eq_some htied hr₀).symm.trans hr)
  have hitems : (Event.service ctx (.resolve ticketId .swapped note newId next actorId)).ItemsStep db db' :=
    (SupportService.resolve_timed hruns).items
  obtain ⟨v, hv⟩ := hitems.stored n hn
  have hnew := h _ (Table.get?_mem hr') hassigned _ (Table.get?_mem hv)
    (congrArg some (Event.itemAfter_id n).symm)
  exact htarget.2.1.symm.trans ((Event.itemAfter_categoryId id n).symm.trans hnew)

theorem Db.CategoriesAgree.of_keeps (hsound : Sound db.custody) (h : db.CategoriesAgree)
    (hedit : ¬ e.EditsItem) (hkeeps : e.KeepsCategories db) (hcommits : e.Commits db db') :
    db'.CategoriesAgree := by
  have hlaw : ∀ r ∈ db'.requests, db.CategoryAgrees r ∧ db.items.References r.assignedItemId := by
    refine hcommits.effects.requests.forall_mem ?_ ?_ fun r hr => ⟨h r hr, fun d hd => known_of_sound hsound hr hd⟩
    · rintro r r' u hr hw ⟨hagree, hknown⟩
      cases hw with
      | service hw =>
        cases hw with
        | updateBookingRange | ship | confirmDelivery | approveExtension => exact ⟨hagree, hknown⟩
        | assign hstatus hitem havail hcategory =>
          refine ⟨fun _ i hi hdevice => ?_, Table.references_of_get? hitem⟩
          obtain rfl := Option.some.inj hdevice
          obtain rfl := Option.some.inj (hitem.symm.trans (Table.mem_iff_get?.mp hi))
          exact hcategory
        | reject | cancel | escalateToManager | completeReturn | markedLost =>
          exact ⟨fun hassigned => absurd hassigned (of_decide_eq_false rfl), hknown⟩
        | @swapped _ _ _ newId _ _ t i n hticket hopen htied hitem hnew htarget =>
          have hnid : n.id = newId := Table.get?_key hnew
          have hstored : db.items.get? n.id = some n := hnid.symm ▸ hnew
          refine ⟨fun hassigned j hj hdevice => ?_, Table.references_of_get? hstored⟩
          have hj : db.items.get? j.id = some j := Table.mem_iff_get?.mp hj
          obtain rfl := Option.some.inj (hstored.symm.trans (Option.some.inj hdevice ▸ hj))
          exact htarget.2.1.trans (hkeeps t hticket hopen i hitem n hnew htarget r (bind_eq_some htied hr) hassigned)
      | portal hw =>
        cases hw with
        | submitRequest hstatus hqueue =>
          refine ⟨fun hassigned => ?_, hknown⟩
          rcases hqueue with rfl | rfl <;> exact absurd hassigned (of_decide_eq_false rfl)
        | @decideRequest _ approved =>
          refine ⟨fun hassigned => ?_, hknown⟩
          cases approved <;> exact absurd hassigned (of_decide_eq_false rfl)
        | initiateReturn => exact ⟨hagree, hknown⟩
    · intro r u hc
      cases hc with
      | @directAssign _ itemId _ _ _ _ item _ hitem =>
        refine ⟨fun _ i hi hdevice => ?_, Table.references_of_get? hitem⟩
        obtain rfl := Option.some.inj hdevice
        obtain rfl := Option.some.inj (hitem.symm.trans (Table.mem_iff_get?.mp hi))
        rfl
      | fileRequest hfiled =>
        refine ⟨fun hassigned => ?_, ?_⟩
        · have hstatus : r.status = .assigned := hassigned
          exact absurd hfiled.2 (hstatus ▸ by decide)
        · exact (show db.items.References r.assignedItemId from hfiled.1 ▸ Table.references_none)
  exact fun r hr => (hcommits.items.categoryAgrees_iff hedit (hlaw r hr).2).mpr (hlaw r hr).1

/-- **One event keeps the agreement** exactly when it meets the condition. -/
theorem Db.CategoriesAgree.step_iff (hsound : Sound db.custody) (h : db.CategoriesAgree)
    (hcommits : e.Commits db db') : db'.CategoriesAgree ↔ e.KeepsCategories db := by
  by_cases hedit : e.EditsItem
  · cases e with
    | service ctx op => cases op <;> first | exact h.edit_iff hsound hcommits | exact absurd hedit id
    | portal => exact absurd hedit id
  refine ⟨fun hagree => ?_, fun hkeeps => h.of_keeps hsound hedit hkeeps hcommits⟩
  cases hcommits with
  | portal => trivial
  | @service ctx op db' hruns =>
    cases op with
    | resolve ticketId resolution =>
      cases resolution with
      | swapped =>
        obtain ⟨row, hruns⟩ := runs_discard.mp hruns
        exact hagree.of_swap hruns
      | _ => trivial
    | editItem => exact absurd trivial hedit
    | _ => trivial

/-! ### Runs -/

/-- **Assigned requests have the category of their device**, in every state of a run whose edits and swaps
meet the condition, and the next event breaks that exactly when it does not meet it. -/
theorem categoriesAgree_of_run (h : db.Integral) (hagree : db.CategoriesAgree)
    (run : Run Step (fun db e => e.KeepsCategories db) db db') :
    db'.CategoriesAgree ∧
      ∀ (e : Event) db'', e.Commits db' db'' → (db''.CategoriesAgree ↔ e.KeepsCategories db') := by
  have hallowed : ∀ {db : Db} {e : Event}, e.KeepsCategories db → True ∧ e.KeepsCategories db :=
    fun hkeeps => ⟨trivial, hkeeps⟩
  obtain ⟨-, hagree', hexact⟩ := exact_of_run (I := fun db => Sound db.custody) hallowed
    (fun hsound _ hcommits => sound_of_commits hsound hcommits)
    (fun hsound _ hcommits hagree => hagree.step_iff hsound hcommits) h.sound hagree run
  exact ⟨hagree', fun e db'' hcommits => hexact e db'' trivial hcommits⟩

namespace Sample

def phones : ItemCategory where
  id := 2
  name := "Phone"

/-- The store with a second category. -/
def stocked : Db := { store with categories := ⟨[laptops, phones], by decide⟩ }

/-- The device turns out to be a phone. -/
def recategorise (itemId : UUID) : Event :=
  call (.editItem itemId { categoryId := some 2 } 9)

end Sample

/-- Laptop 1, which nobody has, becomes a phone; the same edit of laptop 2 is then one of the breaking ones. -/
theorem categoriesAgree_of_run_edit :
    let db := (Sample.recategorise 1).exec Sample.stocked
    db.CategoriesAgree ∧
      (((Sample.recategorise 2).exec db).CategoriesAgree ↔ (Sample.recategorise 2).KeepsCategories db) := by
  have hkeeps : (Sample.recategorise 1).KeepsCategories Sample.stocked := by
    intro i _ _ c _ _ r hr
    revert r
    decide
  have hrun := categoriesAgree_of_run (by decide : Sample.stocked.Integral) (by decide)
    (.step .refl (Sample.recategorise 1) hkeeps rfl)
  exact ⟨hrun.1, hrun.2 _ _ (.service rfl)⟩

/-- Laptop 2 becomes a phone while request 2, for a laptop, has it. -/
theorem editItem_not_categoriesAgree :
    Sample.stocked.Integral ∧ Sample.stocked.CategoriesAgree ∧
      ¬ ((Sample.recategorise 2).exec Sample.stocked).CategoriesAgree := by
  decide

end AssetPilot
