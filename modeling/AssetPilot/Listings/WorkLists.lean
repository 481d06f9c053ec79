import AssetPilot.Invariants.Documented
import AssetPilot.Listings.ItemDetail
import AssetPilot.Services.DashboardService

/-!
# Work lists and details

The lists of tickets and handovers, the two panels of the dashboard, and the details of a ticket and of a request.
Their joins drop no row of a coherent store, so that a list shows all there is, a panel the first of it, and a
detail whatever key is known. Where the status of a request says that somebody decided, its detail names them.
-/

namespace AssetPilot

open Relational System Txn
open SupportRequestRepository (supportQuery supportDetailQuery filedOrder _OPEN_STATUSES)
open HandoverRequestRepository (handoverQuery handoverOrder)
open RequestRepository (recentQuery recentOrder requestDetailQuery RequestDetailRow)
open DashboardService (getSummary getOpenSupport getRecentRequests)
open SupportService (SupportDetailResult)

variable {ctx : Ctx} {db db' : Db}

/-! ### Lists and panels -/

/-- The lists are complete, the panels show the first of them, and the figures of the dashboard count them. -/
structure Db.ListsComplete (db : Db) : Prop where
  tickets : ∀ {ctx status type itemId order rows},
    (SupportService.listSupportRequests status type itemId order).Runs ctx db rows db →
      (supportQuery (fun t => Selects status t.status ∧ Selects type t.type ∧ Selects itemId t.itemId) db).Limited
        db.supportRequests (fun t => Selects status t.status ∧ Selects type t.type ∧ Selects itemId t.itemId)
        filedOrder (db.supportRequests.rows.countP fun t => Selects status t.status ∧ Selects type t.type ∧
          Selects itemId t.itemId) rows
  handovers : ∀ {ctx status itemId order rows}, (HandoverService.list status itemId order).Runs ctx db rows db →
    (handoverQuery status itemId db).Limited db.handoverRequests
      (fun h => Selects status h.status ∧ Selects itemId h.itemId) handoverOrder
      (db.handoverRequests.rows.countP fun h => Selects status h.status ∧ Selects itemId h.itemId) rows
  openSupport : ∀ {ctx limit order rows}, (getOpenSupport limit order).Runs ctx db rows db →
    (supportQuery (fun t => t.status ∈ _OPEN_STATUSES) db).Limited db.supportRequests
      (fun t => t.status ∈ _OPEN_STATUSES) filedOrder limit rows
  recent : ∀ {ctx limit order rows}, (getRecentRequests limit order).Runs ctx db rows db →
    (recentQuery db).Limited db.requests (fun _ => True) recentOrder limit rows
  openCount : ∀ {ctx summary limit order rows}, getSummary.Runs ctx db summary db →
    (getOpenSupport limit order).Runs ctx db rows db → rows.length = min limit summary.openSupportCount
  activeCount : ∀ {ctx summary order rows}, getSummary.Runs ctx db summary db →
    (HandoverService.list (some .accepted) none order).Runs ctx db rows db →
      rows.length = summary.activeHandoversCount

theorem Db.Coherent.supportQuery_select_iff (h : db.Coherent) {filter : SupportRequest → Prop}
    [DecidablePred filter] : ∀ t ∈ db.supportRequests, (supportQuery filter db).select t ≠ none ↔ filter t := by
  intro t ht
  obtain ⟨hitem, hrequester, -⟩ := SupportRequest.constraints_iff.mp (h.supportRequests t ht)
  obtain ⟨i, hi⟩ := Option.ne_none_iff_exists'.mp (hitem t.itemId rfl)
  obtain ⟨u, hu⟩ := Option.ne_none_iff_exists'.mp (hrequester t.requesterId rfl)
  simp [supportQuery, hi, hu]

theorem Db.Coherent.recentQuery_select_iff (h : db.Coherent) :
    ∀ r ∈ db.requests, (recentQuery db).select r ≠ none ↔ True := by
  intro r hr
  obtain ⟨hrequester, hcategory, -⟩ := (Request.constraints_iff.mp (h.requests r hr)).2
  obtain ⟨c, hc⟩ := Option.ne_none_iff_exists'.mp (hcategory r.categoryId rfl)
  obtain ⟨u, hu⟩ := Option.ne_none_iff_exists'.mp (hrequester r.requesterId rfl)
  simp [recentQuery, hc, hu]

theorem Db.HandoversIntegral.handoverQuery_select_iff (h : db.HandoversIntegral) {status : Option HandoverStatus}
    {itemId : Option UUID} : ∀ g ∈ db.handoverRequests, (handoverQuery status itemId db).select g ≠ none ↔
      Selects status g.status ∧ Selects itemId g.itemId := by
  intro g hg
  obtain ⟨hitem, howner, hborrower⟩ := h.refers g hg
  obtain ⟨i, hi⟩ := Option.ne_none_iff_exists'.mp (hitem g.itemId rfl)
  obtain ⟨u, hu⟩ := Option.ne_none_iff_exists'.mp (howner g.ownerId rfl)
  obtain ⟨v, hv⟩ := Option.ne_none_iff_exists'.mp (hborrower g.borrowerId rfl)
  simp [handoverQuery, hi, hu, hv]

theorem Db.Coherent.listsComplete (h : db.Coherent) (hhandovers : db.HandoversIntegral) : db.ListsComplete where
  tickets hruns := by
    rw [(SupportRequestRepository.runs_listFiltered.mp hruns).1]
    exact Query.limited_length _ h.supportQuery_select_iff _
  handovers hruns := by
    rw [(HandoverRequestRepository.runs_listFiltered.mp hruns).1]
    exact Query.limited_length _ hhandovers.handoverQuery_select_iff _
  openSupport hruns := by
    rw [(SupportRequestRepository.runs_listOpen.mp hruns).1]
    exact Query.limited _ h.supportQuery_select_iff _ _
  recent hruns := by
    rw [(RequestRepository.runs_listRecent.mp hruns).1]
    exact Query.limited _ h.recentQuery_select_iff _ _
  openCount hsummary hruns := by
    obtain ⟨-, -, hcount, -⟩ := DashboardService.runs_getSummary.mp hsummary
    rw [hcount, (SupportRequestRepository.runs_listOpen.mp hruns).1]
    exact (Query.limited _ h.supportQuery_select_iff _ _).length
  activeCount hsummary hruns := by
    obtain ⟨-, -, -, hcount, -⟩ := DashboardService.runs_getSummary.mp hsummary
    rw [hcount, (HandoverRequestRepository.runs_listFiltered.mp hruns).1, OrderBy.length_sort,
      Query.length_rows _ hhandovers.handoverQuery_select_iff]
    exact List.countP_congr fun g _ => by simp [Selects]

/-- **The lists show all there is**, in every state that a run reaches: none of the rows that they select is
dropped or repeated, a panel shows the first of them, and the dashboard counts what they show. -/
theorem listsComplete_of_run {ok : Db → Event → Prop} (h : db.Coherent) (hhandovers : db.HandoversIntegral)
    (run : Run Step ok db db') : db'.ListsComplete :=
  (h.of_run run).listsComplete (hhandovers.kept (HistoryKept.of_run run))

/-- The ticket of laptop 2 is started, and stays in the panel. -/
theorem listsComplete_of_run_started : (Sample.after [Sample.call (.start 1 9)]).ListsComplete :=
  listsComplete_of_run (by decide : Sample.store.Coherent) (by decide)
    (.step .refl (Sample.call (.start 1 9)) trivial rfl : Run Step (fun _ _ => True) Sample.store _)

/-! ### Details -/

/-- The name of the user, if there is one. -/
def Db.Names (db : Db) (userId : Option UUID) (name : Option String) : Prop :=
  (userId = none ∧ name = none) ∨ ∃ k u, userId = some k ∧ db.users.get? k = some u ∧ name = some u.name

/-- The row says what is stored of the request, and names everybody who had to do with it. -/
structure Db.RequestShown (db : Db) (r : Request) (row : RequestDetailRow) : Prop where
  request : row.request = r
  category : ∃ c, db.categories.get? r.categoryId = some c ∧ row.categoryName = c.name
  requester : ∃ u, db.users.get? r.requesterId = some u ∧ row.requesterName = u.name
  manager : db.Names r.managerId row.managerName
  itDecidedBy : db.Names r.itDecidedBy row.itDecidedByName
  cancelledBy : db.Names r.cancelledBy row.cancelledByName
  completedBy : db.Names r.completedBy row.completedByName
  item : row.item.map Item.id = r.assignedItemId ∧ ∀ i ∈ row.item, i ∈ db.items.rows
  assigned : r.status = .assigned → row.itDecidedByName ≠ none ∧ row.item ≠ none
  cancelled : r.status = .cancelled → row.cancelledByName ≠ none
  completed : r.status = .completed → row.completedByName ≠ none

/-- The row says what is stored of the ticket, its device and its requester. -/
structure Db.TicketShown (db : Db) (t : SupportRequest) (result : SupportDetailResult) : Prop where
  ticket : result.supportRequest = t
  item : db.items.get? t.itemId = some result.item
  requester : ∃ u, db.users.get? t.requesterId = some u ∧ result.requester.toUserSummary = userSummaryFrom u

/-- Every known request and every known ticket has its detail, and no other key. -/
structure Db.DetailsComplete (db : Db) : Prop where
  request : ∀ ctx requestId,
    (db.requests.get? requestId = none →
      (RequestService.getDetail requestId).Fails ctx db (notFoundException "Request not found.")) ∧
    ∀ r, db.requests.get? requestId = some r →
      ∃ row, (RequestService.getDetail requestId).Runs ctx db row db ∧ db.RequestShown r row
  ticket : ∀ ctx ticketId,
    (db.supportRequests.get? ticketId = none →
      (SupportService.getDetail ticketId).Fails ctx db (notFoundException "Support request not found.")) ∧
    ∀ t, db.supportRequests.get? ticketId = some t →
      ∃ result, (SupportService.getDetail ticketId).Runs ctx db result db ∧ db.TicketShown t result

theorem Db.names_of_references {userId : Option UUID} (h : db.users.References userId) :
    db.Names userId ((userId.bind db.users.get?).map User.name) := by
  cases userId with
  | none => exact .inl ⟨rfl, rfl⟩
  | some k =>
    obtain ⟨u, hu⟩ := Option.ne_none_iff_exists'.mp (h k rfl)
    exact .inr ⟨k, u, rfl, hu, by simp [hu]⟩

theorem Db.Names.ne_none {userId : Option UUID} {name : Option String} (h : db.Names userId name)
    (hid : userId ≠ none) : name ≠ none := by
  rcases h with ⟨hnone, -⟩ | ⟨k, u, -, -, rfl⟩
  · exact absurd hnone hid
  · exact Option.some_ne_none u.name

theorem requestDetailQuery_key {requestId : UUID} {r : Request}
    (h : (requestDetailQuery requestId db).select r ≠ none) : r.id = requestId := by
  obtain ⟨row, hrow⟩ := Option.ne_none_iff_exists'.mp h
  simp only [requestDetailQuery, Option.bind_eq_bind, Option.bind_eq_some_iff, Option.ite_none_right_eq_some] at hrow
  obtain ⟨_, -, _, -, hid, -⟩ := hrow
  exact hid

theorem supportDetailQuery_key {ticketId : UUID} {t : SupportRequest}
    (h : (supportDetailQuery ticketId db).select t ≠ none) : t.id = ticketId := by
  obtain ⟨row, hrow⟩ := Option.ne_none_iff_exists'.mp h
  simp only [supportDetailQuery, Option.bind_eq_bind, Option.bind_eq_some_iff, Option.ite_none_right_eq_some] at hrow
  obtain ⟨_, -, _, -, hid, -⟩ := hrow
  exact hid

theorem Db.Coherent.requestShown (h : db.Coherent) (hdocumented : db.Documented) {r : Request}
    (hr : db.requests.get? r.id = some r) :
    ∃ row, (RequestService.getDetail r.id).Runs ctx db row db ∧ db.RequestShown r row := by
  have hrow := Table.get?_mem hr
  obtain ⟨hrequester, hcategory, hitem, hmanager, hdecider, hcanceller, hcompleter⟩ :=
    (Request.constraints_iff.mp (h.requests r hrow)).2
  obtain ⟨c, hc⟩ := Option.ne_none_iff_exists'.mp (hcategory r.categoryId rfl)
  obtain ⟨u, hu⟩ := Option.ne_none_iff_exists'.mp (hrequester r.requesterId rfl)
  let name (userId : Option UUID) : Option String := (userId.bind db.users.get?).map User.name
  have hselect : (requestDetailQuery r.id db).select r = some ⟨r, c.name, u.name, name r.managerId,
      name r.itDecidedBy, name r.cancelledBy, name r.completedBy, r.assignedItemId.bind db.items.get?⟩ := by
    simp [requestDetailQuery, hc, hu, name]
  have hhead := Query.head?_rows _ requestDetailQuery_key hr hselect
  have hitem' : (r.assignedItemId.bind db.items.get?).map Item.id = r.assignedItemId := by
    cases hdevice : r.assignedItemId with
    | none => rfl
    | some k =>
      obtain ⟨i, hi⟩ := Option.ne_none_iff_exists'.mp (hitem k hdevice)
      have hid : i.id = k := Table.get?_key hi
      simp [hi, hid]
  have hd := hdocumented.requests r hrow
  refine ⟨⟨r, c.name, u.name, name r.managerId, name r.itDecidedBy, name r.cancelledBy, name r.completedBy,
    r.assignedItemId.bind db.items.get?⟩, by simp [RequestService.getDetail, hhead],
    { request := rfl
      category := ⟨c, hc, rfl⟩
      requester := ⟨u, hu, rfl⟩
      manager := Db.names_of_references hmanager
      itDecidedBy := Db.names_of_references hdecider
      cancelledBy := Db.names_of_references hcanceller
      completedBy := Db.names_of_references hcompleter
      item := ⟨hitem', fun i hi => ?_⟩
      assigned := fun hs => ?_
      cancelled := fun hs => (Db.names_of_references hcanceller).ne_none (hd.cancelled hs).2.2.1
      completed := fun hs => (Db.names_of_references hcompleter).ne_none (hd.completed hs).1 }⟩
  · obtain ⟨k, -, hi⟩ := Option.bind_eq_some_iff.mp hi
    exact Table.get?_mem hi
  · obtain ⟨hdevice, -, -, hdecided, -⟩ := hd.assigned hs
    refine ⟨(Db.names_of_references hdecider).ne_none hdecided, fun hnone => hdevice ?_⟩
    exact hitem'.symm.trans (congrArg (Option.map Item.id) hnone)

theorem Db.Coherent.ticketShown (h : db.Coherent) {t : SupportRequest} (ht : db.supportRequests.get? t.id = some t) :
    ∃ result, (SupportService.getDetail t.id).Runs ctx db result db ∧ db.TicketShown t result := by
  obtain ⟨hitem, hrequester, -⟩ := SupportRequest.constraints_iff.mp (h.supportRequests t (Table.get?_mem ht))
  obtain ⟨i, hi⟩ := Option.ne_none_iff_exists'.mp (hitem t.itemId rfl)
  obtain ⟨u, hu⟩ := Option.ne_none_iff_exists'.mp (hrequester t.requesterId rfl)
  have hselect : (supportDetailQuery t.id db).select t = some ⟨t, i, u⟩ := by simp [supportDetailQuery, hi, hu]
  have hhead := Query.head?_rows _ supportDetailQuery_key ht hselect
  exact ⟨SupportService.detailResultFrom ⟨t, i, u⟩, by simp [SupportService.getDetail, hhead], rfl, hi, u, hu, rfl⟩

/-- **Every known key has its detail**, in every state that a run reaches, with everybody named who had to do with
the row; the others are answered with a 404. -/
theorem detailsComplete_of_run {ok : Db → Event → Prop} (h : db.Coherent) (hdocumented : db.Documented)
    (run : Run Step ok db db') : db'.DetailsComplete := by
  have hcoherent := h.of_run run
  have hdocumented' := hdocumented.of_run run
  refine ⟨fun ctx requestId => ⟨fun hnone => ?_, fun r hr => ?_⟩, fun ctx ticketId => ⟨fun hnone => ?_, fun t ht => ?_⟩⟩
  · simp [RequestService.getDetail, Query.head?_rows_eq_none _ requestDetailQuery_key hnone]
  · obtain rfl : r.id = requestId := Table.get?_key hr
    exact hcoherent.requestShown hdocumented' hr
  · simp [SupportService.getDetail, Query.head?_rows_eq_none _ supportDetailQuery_key hnone]
  · obtain rfl : t.id = ticketId := Table.get?_key ht
    exact hcoherent.ticketShown ht

/-- Laptop 2 is returned: its request names who completed it, its ticket who had filed it. -/
theorem detailsComplete_of_run_return :
    ((Sample.call (.completeReturn 2 .available 9)).exec Sample.decided).DetailsComplete :=
  detailsComplete_of_run (by decide : Sample.decided.Coherent) Sample.decided_documented
    (.step .refl (Sample.call (.completeReturn 2 .available 9)) trivial rfl :
      Run Step (fun _ _ => True) Sample.decided _)

end AssetPilot
