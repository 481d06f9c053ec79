import AssetPilot.Invariants.History
import AssetPilot.Invariants.OneClaim
import AssetPilot.Invariants.Coherence
import AssetPilot.Invariants.Ownership
import AssetPilot.Services.Views

/-!
# The composite view of a device

`get_detail` puts together what six tables know of a device, with one lookup each. Where a lookup could come back
with several rows or with none, an invariant says that it does not: one booking at most, one accepted handover at
most, and no reference into the void.
-/

namespace AssetPilot

open Relational System Txn InventoryService HandoverRequestRepository

variable {ctx : Ctx} {db db' : Db} {i : Item} {detail : ItemDetail}

/-- The constraints of `handover_request`: the foreign keys and `uq_one_active_handover_per_item`. -/
structure Db.HandoversIntegral (db : Db) : Prop where
  refers : ∀ h ∈ db.handoverRequests.rows, db.items.References h.itemId ∧ db.users.References h.ownerId ∧
    db.users.References h.borrowerId
  unique : ∀ h ∈ db.handoverRequests.rows, ∀ g ∈ db.handoverRequests.rows, h.status = .accepted →
    g.status = .accepted → g.itemId = h.itemId → h = g

instance (db : Db) : Decidable db.HandoversIntegral :=
  decidable_of_iff ((∀ h ∈ db.handoverRequests.rows, db.items.References h.itemId ∧
      db.users.References h.ownerId ∧ db.users.References h.borrowerId) ∧
    ∀ h ∈ db.handoverRequests.rows, ∀ g ∈ db.handoverRequests.rows, h.status = .accepted →
      g.status = .accepted → g.itemId = h.itemId → h = g)
    ⟨fun ⟨h₁, h₂⟩ => ⟨h₁, h₂⟩, fun h => ⟨h.refers, h.unique⟩⟩

/-- The view shows what is stored of the device, all of it, and names the people. -/
structure Db.Shows (db : Db) (i : Item) (detail : ItemDetail) : Prop where
  item : detail.item = i
  category : db.categories.get? i.categoryId = some detail.category
  owner : ∀ ownerId, i.currentOwnerId = some ownerId ↔
    ∃ u, db.users.get? ownerId = some u ∧ detail.currentOwner = some (userSummaryFrom u)
  booking : ∀ r, (r ∈ db.requests.rows ∧ r.IsBookingFor i.id) ↔ ∃ s ∈ detail.currentRequest, s.request = r
  requester : ∀ s ∈ detail.currentRequest, ∃ u, db.users.get? s.request.requesterId = some u ∧
    s.requesterName = some u.name
  tickets : detail.openSupport.Nodup ∧ detail.openSupport.Pairwise (fun x y => x.filedAt ≤ y.filedAt) ∧
    ∀ t, t ∈ detail.openSupport ↔ t ∈ db.supportRequests.rows ∧ t.itemId = i.id ∧ t.status ≠ .resolved
  handover : ∀ h, (h ∈ db.handoverRequests.rows ∧ h.itemId = i.id ∧ h.status = .accepted) ↔
    ∃ s ∈ detail.activeHandover, s.handover = h
  parties : ∀ s ∈ detail.activeHandover, ∃ u v, db.users.get? s.handover.ownerId = some u ∧
    db.users.get? s.handover.borrowerId = some v ∧ s.ownerName = some u.name ∧ s.borrowerName = some v.name
  samePerson : db.OwnershipAgrees →
    detail.currentOwner.map UserSummary.name = detail.currentRequest.bind RequestSummary.requesterName

/-! ### The lookups -/

theorem mem_accepted {itemId : UUID} {h : HandoverRequest} : h ∈ accepted db itemId ↔
    h ∈ db.handoverRequests.rows ∧ h.itemId = itemId ∧ h.status = .accepted := by
  simp [accepted]

theorem Db.HandoversIntegral.length_accepted (h : db.HandoversIntegral) (itemId : UUID) :
    (accepted db itemId).length ≤ 1 := by
  refine length_le_one_of_nodup ((List.Nodup.of_map _ (Table.nodup _)).filter _) fun g hg g' hg' => ?_
  obtain ⟨hg, hitem, hstatus⟩ := mem_accepted.mp hg
  obtain ⟨hg', hitem', hstatus'⟩ := mem_accepted.mp hg'
  exact h.unique g hg g' hg' hstatus hstatus' (hitem'.trans hitem.symm)

/-- What the lookups of a device find. -/
def Db.itemDetail (db : Db) (order : OrderBy (Desc Request.createdAt)) (item : Item) (category : ItemCategory) :
    ItemDetail where
  item := item
  category := category
  currentOwner := (item.currentOwnerId.bind db.users.get?).map userSummaryFrom
  currentRequest := (order.sort (db.requests.rows.filter fun r => r.IsBookingFor item.id)).head?.map fun r =>
    ⟨r, (db.users.get? r.requesterId).map User.name⟩
  openSupport := (db.supportRequests.rows.filter fun t =>
    t.itemId = item.id ∧ t.status ∈ SupportRequestRepository._OPEN_STATUSES).insertionSort fun x y =>
      x.filedAt ≤ y.filedAt
  activeHandover := (accepted db item.id).head?.map fun h =>
    ⟨h, (db.users.get? h.ownerId).map User.name, (db.users.get? h.borrowerId).map User.name⟩

theorem getDetail_runs {itemId : UUID} {order : OrderBy (Desc Request.createdAt)} {category : ItemCategory}
    (hi : db.items.get? itemId = some i) (hcategory : db.categories.get? i.categoryId = some category)
    (hone : (accepted db i.id).length ≤ 1) :
    (getDetail itemId order).Runs ctx db (db.itemDetail order i category) db := by
  simp only [getDetail, runs_bind, runs_pure]
  refine ⟨i, db, by simp [getItemOr404, hi], _, db, ItemCategoryRepository.runs_getById.mpr ⟨rfl, rfl⟩, category,
    db, by simp [hcategory], _, db, runs_ownerOf.mpr ⟨rfl, rfl⟩, _, db,
    RequestRepository.runs_getActiveForItem.mpr ⟨rfl, rfl⟩, _, db,
    SupportRequestRepository.runs_listOpenForItem.mpr ⟨rfl, rfl⟩, _, db,
    runs_getAcceptedForItem.mpr ⟨hone, rfl, rfl⟩, _, db, runs_requestSummaryOf.mpr ⟨rfl, rfl⟩, _, db,
    runs_handoverSummaryOf.mpr ⟨rfl, rfl⟩, rfl, rfl⟩

theorem Db.OwnershipAgrees.same_name (hagrees : db.OwnershipAgrees) (hi : i ∈ db.items.rows)
    {current : Option Request}
    (hcurrent : ∀ r, current = some r ↔ r ∈ db.requests.rows ∧ r.IsBookingFor i.id) :
    (i.currentOwnerId.bind db.users.get?).map User.name =
      current.bind fun r => (db.users.get? r.requesterId).map User.name := by
  cases howner : i.currentOwnerId with
  | none =>
    cases hc : current with
    | none => rfl
    | some r =>
      obtain ⟨hr, hbooking⟩ := (hcurrent r).mp hc
      exact nomatch howner.symm.trans ((hagrees.owner i hi r.requesterId).mpr ⟨r, hr, hbooking, rfl⟩)
  | some ownerId =>
    obtain ⟨r, hr, hbooking, rfl⟩ := (hagrees.owner i hi ownerId).mp howner
    rw [(hcurrent r).mpr ⟨hr, hbooking⟩]
    rfl

/-- **What the lookups find is what is stored.** -/
theorem shows_itemDetail {order : OrderBy (Desc Request.createdAt)} {category : ItemCategory}
    (h : db.Coherent) (hone : db.OneClaim) (hhandovers : db.HandoversIntegral) (hi : i ∈ db.items.rows)
    (hcategory : db.categories.get? i.categoryId = some category) :
    db.Shows i (db.itemDetail order i category) := by
  have hbookings : ∀ r ∈ db.requests.rows.filter (fun r => r.IsBookingFor i.id),
      ∀ q ∈ db.requests.rows.filter (fun r => r.IsBookingFor i.id), r = q := by
    intro r hr q hq
    simp only [List.mem_filter, decide_eq_true_eq] at hr hq
    exact hone.booking hr.1 hq.1 hr.2 hq.2
  have hcurrent : ∀ r, (order.sort (db.requests.rows.filter fun r => r.IsBookingFor i.id)).head? = some r ↔
      r ∈ db.requests.rows ∧ r.IsBookingFor i.id := by
    intro r
    rw [order.head?_sort hbookings, List.mem_filter, decide_eq_true_eq]
  have haccepted : ∀ g, (accepted db i.id).head? = some g ↔
      g ∈ db.handoverRequests.rows ∧ g.itemId = i.id ∧ g.status = .accepted := by
    intro g
    rw [← mem_accepted]
    match hlist : accepted db i.id, hhandovers.length_accepted i.id with
    | [], _ => simp
    | [g'], _ => simp [eq_comm]
    | _ :: _ :: _, hlength => exact absurd hlength (by simp)
  refine
    { item := rfl
      category := hcategory
      owner := fun ownerId => ?_
      booking := fun r => ?_
      requester := fun s hs => ?_
      tickets := ⟨?_, ?_, fun t => ?_⟩
      handover := fun g => ?_
      parties := fun s hs => ?_
      samePerson := fun hagrees => ?_ }
  · constructor
    · intro howner
      have hrefers := (Item.constraints_iff.mp (h.items i hi)).2.2.2
      obtain ⟨u, hu⟩ := Option.ne_none_iff_exists'.mp (hrefers ownerId howner)
      exact ⟨u, hu, by simp [Db.itemDetail, howner, hu]⟩
    · rintro ⟨u, hu, hshown⟩
      obtain ⟨v, hv, hsame⟩ := Option.map_eq_some_iff.mp hshown
      obtain ⟨k, hk, hv⟩ := Option.bind_eq_some_iff.mp hv
      have hid : v.id = u.id := congrArg UserSummary.id hsame
      obtain rfl : v.id = k := Table.get?_key hv
      obtain rfl : u.id = ownerId := Table.get?_key hu
      exact hid ▸ hk
  · rw [← hcurrent]
    simp [Db.itemDetail]
  · obtain ⟨r, hr, rfl⟩ := Option.map_eq_some_iff.mp hs
    have hrefers := (Request.constraints_iff.mp (h.requests r ((hcurrent r).mp hr).1)).2.1
    obtain ⟨u, hu⟩ := Option.ne_none_iff_exists'.mp (hrefers r.requesterId rfl)
    exact ⟨u, hu, by rw [hu]; rfl⟩
  · exact ((List.perm_insertionSort _ _).nodup_iff).mpr ((List.Nodup.of_map _ (Table.nodup _)).filter _)
  · exact List.pairwise_insertionSort _ _
  · have hopen : t.status ∈ SupportRequestRepository._OPEN_STATUSES ↔ t.status ≠ .resolved := by
      cases t.status <;> decide
    simp [Db.itemDetail, hopen]
  · rw [← haccepted]
    simp [Db.itemDetail]
  · obtain ⟨g, hg, rfl⟩ := Option.map_eq_some_iff.mp hs
    obtain ⟨-, howner, hborrower⟩ := hhandovers.refers g ((haccepted g).mp hg).1
    obtain ⟨u, hu⟩ := Option.ne_none_iff_exists'.mp (howner g.ownerId rfl)
    obtain ⟨v, hv⟩ := Option.ne_none_iff_exists'.mp (hborrower g.borrowerId rfl)
    exact ⟨u, v, hu, hv, by rw [hu]; rfl, by rw [hv]; rfl⟩
  · have hsame := hagrees.same_name hi hcurrent
    simp only [Db.itemDetail, Option.map_map, Option.bind_map, Function.comp_def]
    exact hsame

/-! ### Runs -/

theorem Db.HandoversIntegral.kept (h : db.HandoversIntegral) (hkept : HistoryKept db db') :
    db'.HandoversIntegral := by
  obtain ⟨-, hsame⟩ := hkept.untouched
  refine ⟨fun g hg => ?_, hsame ▸ h.unique⟩
  obtain ⟨hitem, howner, hborrower⟩ := h.refers g (hsame ▸ hg)
  exact ⟨fun k hk => hkept.items.get?_ne_none (hitem k hk), fun k hk => hkept.users.get?_ne_none (howner k hk),
    fun k hk => hkept.users.get?_ne_none (hborrower k hk)⟩

/-- **The view of a device is complete**, in every state that a run reaches: an unknown device is the only one
that it does not answer for, and what it shows is what is stored, with one booking and one handover at most. -/
theorem itemDetail_of_run (h : db.Coherent) (hsettled : db.Settled) (hhandovers : db.HandoversIntegral)
    (run : Run Step TicketsTied db db') (ctx : Ctx) (itemId : UUID) (order : OrderBy (Desc Request.createdAt)) :
    (db'.items.get? itemId = none →
      (getDetail itemId order).Fails ctx db' (notFoundException "Item not found.")) ∧
    ∀ i, db'.items.get? itemId = some i →
      ∃ detail, (getDetail itemId order).Runs ctx db' detail db' ∧ db'.Shows i detail := by
  have hcoherent : db'.Coherent := h.of_run run
  obtain ⟨hsound, hcarried⟩ := carried_of_run hsettled run
  have hone := oneClaim_of_carried hsound hcarried
  have hhandovers' := hhandovers.kept (HistoryKept.of_run run)
  refine ⟨fun hnone => ?_, fun i hi => ?_⟩
  · simp [getDetail, getItemOr404, hnone]
  · have hrow := Table.get?_mem hi
    have hrefers := (Item.constraints_iff.mp (hcoherent.items i hrow)).2.2.1
    obtain ⟨category, hcategory⟩ := Option.ne_none_iff_exists'.mp (hrefers i.categoryId rfl)
    exact ⟨_, getDetail_runs hi hcategory (hhandovers'.length_accepted i.id),
      shows_itemDetail hcoherent hone hhandovers' hrow hcategory⟩

/-- Laptop 1 has been assigned, and is shown with request 1 and employee 1. -/
theorem itemDetail_of_run_assigned :
    let db' := Sample.after [Sample.call (.assign 1 1 0 10 false 9)]
    ∃ i detail, db'.items.get? 1 = some i ∧
      (getDetail 1 OrderBy.stable).Runs Sample.ctx db' detail db' ∧ db'.Shows i detail := by
  have key := itemDetail_of_run (by decide : Sample.store.Coherent) (by decide : Sample.store.Settled) (by decide)
    (.step .refl (Sample.call (.assign 1 1 0 10 false 9)) trivial rfl) Sample.ctx 1 OrderBy.stable
  obtain ⟨detail, hdetail⟩ := key.2 _ rfl
  exact ⟨_, detail, rfl, hdetail⟩

end AssetPilot
