import AssetPilot.Secrecy.Services
import AssetPilot.Views

/-!
# Views that see no hash

From stores that differ in password hashes each reading operation has the same answer. Where it lists users, the
database may put some of them in any order; this order must not depend on the hashes either.
-/

namespace AssetPilot

open Relational System Txn Like

variable {ctx : Ctx} {db db' : Db} {collation : Collation} {α β γ : Type}

/-! ### Joins -/

namespace Db.Alike

theorem bind_get? {f : User → Option β} (h : db.Alike db') (hf : ∀ u, f u.masked = f u) (k : UUID) :
    (db.users.get? k).bind f = (db'.users.get? k).bind f := by
  have hmasked (o : Option User) : o.bind f = (o.map User.masked).bind f := by
    cases o with
    | none => rfl
    | some u => exact (hf u).symm
  rw [hmasked, h.get?, ← hmasked]

theorem bind_bind_get? {f : α → User → Option β} {o : Option α} (h : db.Alike db')
    (hf : ∀ a u, f a u.masked = f a u) (k : UUID) :
    (o.bind fun a => (db.users.get? k).bind (f a)) = o.bind fun a => (db'.users.get? k).bind (f a) :=
  congrArg o.bind (funext fun a => h.bind_get? (hf a) k)

theorem map_name (h : db.Alike db') (k : Option UUID) :
    (k.bind db.users.get?).map User.name = (k.bind db'.users.get?).map User.name := by
  cases k with
  | none => rfl
  | some k =>
    rw [Option.bind_some, Option.bind_some, Option.map_eq_bind, Option.map_eq_bind]
    exact h.bind_get? (fun _ => rfl) k

end Db.Alike

theorem Unseeing.rows [Keyed α UUID] {t : Db → Table α} {q : Db → Query α β} (g : List β → γ)
    (ht : ∀ db us, t { db with users := us } = t db)
    (hq : ∀ {db db'}, db.Alike db' → ∀ a, (q db).select a = (q db').select a) :
    Unseeing (do let db ← get; return g ((q db).rows (t db))) := by
  refine Blind.read fun db db' h => ?_
  have ht' : t db' = t db := by
    rw [h.rest]
    exact ht db db'.users
  rw [ht', Query.rows, Query.rows, funext (hq h)]

/-! ### The queries -/

namespace ItemRepository

variable (collation : Collation) (categoryId : Option UUID) (search : Option String)

theorem unseeing_listItems (status : Option DeviceStatus) (ownerType : Option OwnerType)
    (pagination : PaginationParams) (order : OrderBy (Desc fun row : ItemListRow => row.item.createdAt)) :
    Unseeing (listItems collation categoryId status ownerType search pagination order) := by
  refine .rows (paginate order pagination) (fun _ _ => rfl) fun {db db'} h i => ?_
  have hname := h.map_name
  rw [h.rest]
  simp only [itemQuery, hname]

theorem unseeing_listClientAvailable
    (order : OrderBy (Asc fun row : ClientAvailableRow => collation.sortKey row.item.name)) :
    Unseeing (listClientAvailable collation categoryId search order) :=
  .query fun _ _ => rfl

theorem unseeing_listSuggestedDevices (categoryId : UUID) (f t : Datetime) :
    Unseeing (listSuggestedDevices categoryId f t) :=
  .query fun _ _ => rfl

end ItemRepository

namespace RequestRepository

theorem unseeing_listRequests (collation : Collation) (status : Option RequestStatus) (categoryId : Option UUID)
    (priority : Option RequestPriority) (requestedFrom requestedTo : Option Datetime) (search : Option String)
    (pagination : PaginationParams) (order : OrderBy (Desc fun row : RequestListRow => row.request.createdAt)) :
    Unseeing (listRequests collation status categoryId priority requestedFrom requestedTo search pagination order) := by
  refine .rows (paginate order pagination) (fun _ _ => rfl) fun {db db'} h r => ?_
  rw [h.rest]
  exact h.bind_bind_get? (fun _ _ => rfl) _

theorem unseeing_listItApprovals (pagination : PaginationParams) (order : OrderBy approvalOrder) :
    Unseeing (listItApprovals pagination order) := by
  refine .rows (paginate order pagination) (fun _ _ => rfl) fun {db db'} h r => ?_
  rw [h.rest]
  exact h.bind_bind_get? (fun _ _ => rfl) _

theorem unseeing_listOutboundShippingQueue (order : OrderBy queueOrder) :
    Unseeing (listOutboundShippingQueue order) := by
  refine .rows order.sort (fun _ _ => rfl) fun {db db'} h r => ?_
  rw [h.rest]
  exact h.bind_bind_get? (fun _ _ => rfl) _

theorem unseeing_listReturnShippingQueue (order : OrderBy queueOrder) :
    Unseeing (listReturnShippingQueue order) := by
  refine .rows order.sort (fun _ _ => rfl) fun {db db'} h r => ?_
  rw [h.rest]
  exact h.bind_bind_get? (fun _ _ => rfl) _

theorem unseeing_listBookingsForItem (itemId : UUID) : Unseeing (listBookingsForItem itemId) := by
  refine Blind.read fun db db' h => ?_
  have hrequests : db'.requests = db.requests := by rw [h.rest]
  have hjoin (r : Request) : ((db.users.get? r.requesterId).map fun u => (⟨r, u.name⟩ : BookingRow)) =
      (db'.users.get? r.requesterId).map fun u => (⟨r, u.name⟩ : BookingRow) := by
    rw [Option.map_eq_bind, Option.map_eq_bind]
    exact h.bind_get? (fun _ => rfl) _
  rw [hrequests, funext hjoin]

theorem unseeing_getActiveForItem (itemId : UUID) (order : OrderBy (Desc Request.createdAt)) :
    Unseeing (getActiveForItem itemId order) :=
  .query fun _ _ => rfl

theorem unseeing_listRecent (limit : Nat) (order : OrderBy recentOrder) : Unseeing (listRecent limit order) := by
  refine .rows (fun rows => (order.sort rows).take limit) (fun _ _ => rfl) fun {db db'} h r => ?_
  rw [h.rest]
  exact h.bind_bind_get? (fun _ _ => rfl) _

theorem unseeing_getDetail (requestId : UUID) : Unseeing (getDetail requestId) := by
  refine .rows List.head? (fun _ _ => rfl) fun {db db'} h r => ?_
  have hname := h.map_name
  rw [h.rest]
  simp only [requestDetailQuery, hname]
  exact h.bind_bind_get? (fun _ _ => rfl) _

end RequestRepository

namespace SupportRequestRepository

theorem select_supportQuery (filter : SupportRequest → Prop) [DecidablePred filter] (h : db.Alike db')
    (t : SupportRequest) : (supportQuery filter db).select t = (supportQuery filter db').select t := by
  rw [h.rest]
  exact h.bind_bind_get? (fun _ _ => rfl) _

theorem unseeing_listOpen (limit : Nat) (order : OrderBy filedOrder) : Unseeing (listOpen limit order) :=
  .rows (fun rows => (order.sort rows).take limit) (fun _ _ => rfl) fun h t => select_supportQuery _ h t

theorem unseeing_listFiltered (status : Option SupportStatus) (type : Option SupportType) (itemId : Option UUID)
    (order : OrderBy filedOrder) : Unseeing (listFiltered status type itemId order) :=
  .rows order.sort (fun _ _ => rfl) fun h t => select_supportQuery _ h t

end SupportRequestRepository

namespace HandoverRequestRepository

theorem unseeing_getAcceptedForItem (itemId : UUID) : Unseeing (getAcceptedForItem itemId) := by
  have hrows : Unseeing (do let db ← get; return accepted db itemId) := .query fun _ _ => rfl
  have key := hrows.bind fun rows =>
    (Blind.raiseIf (1 < rows.length) multipleResultsFound).bind fun _ => .pure rows.head?
  simp only [Txn.bind_assoc, Txn.pure_bind] at key
  exact key

theorem unseeing_listFiltered (status : Option HandoverStatus) (itemId : Option UUID) (order : OrderBy handoverOrder) :
    Unseeing (listFiltered status itemId order) := by
  refine .rows order.sort (fun _ _ => rfl) fun {db db'} h handover => ?_
  rw [h.rest]
  refine congrArg (Option.bind _) (funext fun item => ?_)
  refine Eq.trans ?_ (h.bind_get? (fun _ => rfl) _)
  exact congrArg (Option.bind _) (funext fun owner => h.bind_get? (fun _ => rfl) _)

end HandoverRequestRepository

theorem ExtensionRequestRepository.unseeing_listFiltered (status : Option ExtensionStatus)
    (order : OrderBy extensionOrder) : Unseeing (listFiltered status order) := by
  refine .rows order.sort (fun _ _ => rfl) fun {db db'} h x => ?_
  rw [h.rest]
  refine congrArg (Option.bind _) (funext fun request => ?_)
  exact h.bind_bind_get? (fun _ _ => rfl) _

theorem DeviceLogRepository.unseeing_listForItem (itemId : UUID) (milestonesOnly : Bool) (order : OrderBy timeOrder) :
    Unseeing (listForItem itemId milestonesOnly order) := by
  refine Blind.read fun db db' h => ?_
  have hname := h.map_name
  rw [h.rest]
  simp only [rowsForItem, hname]

theorem ItemCategoryRepository.unseeing_listActive
    (order : OrderBy (Asc fun category : ItemCategory => collation.sortKey category.name)) :
    Unseeing (listActive collation order) :=
  .query fun _ _ => rfl

theorem coupled_first [Keyed α UUID] {table : Db → Table α} {q : Db → Query α β} {f : β → γ}
    (htable : ∀ db us, table { db with users := us } = table db) (h : db.Alike db')
    (hq : ∀ a, ((q db).select a).map f = ((q db').select a).map f) :
    let first : Service (Option β) := do
      let db ← get
      return ((q db).rows (table db)).head?
    Coupled (fun row row' t t' => row.map f = row'.map f ∧ t.Alike t') first first ctx db db' := by
  intro first
  have htable' : table db' = table db := by
    rw [h.rest]
    exact htable db db'.users
  refine .of_runs (a := ((q db).rows (table db)).head?) (b := ((q db').rows (table db')).head?) rfl rfl ⟨?_, h⟩
  rw [Query.map_head?_rows, Query.map_head?_rows, htable', funext hq]

theorem SupportRequestRepository.coupled_getDetail {supportRequestId : UUID} (h : db.Alike db') :
    Coupled (fun row row' t t' => row.map SupportService.detailResultFrom = row'.map SupportService.detailResultFrom ∧
      t.Alike t') (getDetail supportRequestId) (getDetail supportRequestId) ctx db db' := by
  refine coupled_first (q := supportDetailQuery supportRequestId) (fun _ _ => rfl) h fun t => ?_
  rw [h.rest]
  simp only [supportDetailQuery, Option.bind_eq_bind, Option.map_bind, Function.comp_def]
  refine h.bind_bind_get? (fun item u => ?_) _
  split_ifs <;> rfl

theorem ExtensionRequestRepository.coupled_getDetail {extensionRequestId : UUID} (h : db.Alike db') :
    Coupled (fun row row' t t' => row.map ExtensionService.detailResultFrom =
      row'.map ExtensionService.detailResultFrom ∧ t.Alike t') (getDetail extensionRequestId)
        (getDetail extensionRequestId) ctx db db' := by
  refine coupled_first (q := extensionDetailQuery extensionRequestId) (fun _ _ => rfl) h fun x => ?_
  rw [h.rest]
  simp only [extensionDetailQuery, Option.bind_eq_bind, Option.map_bind, Function.comp_def]
  refine congrArg (Option.bind _) (funext fun request => ?_)
  refine h.bind_bind_get? (fun item u => ?_) _
  split_ifs <;> rfl

namespace UserRepository

/-- The row without the hash of its user. -/
def UserListRow.masked (row : UserListRow) : UserListRow := { row with user := row.user.masked }

theorem masked_rows (h : db.Alike db') (role : Option UserRole) (isActive : Option Bool) (search : Option String) :
    ((userQuery collation role isActive search db).rows db.users).map UserListRow.masked =
      ((userQuery collation role isActive search db').rows db'.users).map UserListRow.masked := by
  have hselect (db : Db) (u : User) : ((userQuery collation role isActive search db).select u).map
      UserListRow.masked = (userQuery collation role isActive search db).select u.masked := by
    simp only [userQuery]
    split_ifs <;> first | rfl | contradiction
  have hsame : (userQuery collation role isActive search db).select =
      (userQuery collation role isActive search db').select := by
    funext u
    simp only [userQuery, h.map_name]
  have hrows (db : Db) : ((userQuery collation role isActive search db).rows db.users).map UserListRow.masked =
      (db.users.rows.map User.masked).filterMap (userQuery collation role isActive search db).select := by
    rw [Query.rows, List.map_filterMap, List.filterMap_map]
    exact congrArg (fun f => db.users.rows.filterMap f) (funext (hselect db))
  rw [hrows, hrows, h.users, hsame]

end UserRepository

/-! ### The item -/

namespace InventoryService

theorem coupled_ownerOf {ownerId : Option UUID} (h : db.Alike db') :
    Coupled SameUser (ownerOf ownerId) (ownerOf ownerId) ctx db db' := by
  cases ownerId with
  | none => exact .pure ⟨rfl, h⟩
  | some k => exact UserRepository.coupled_getById h

theorem map_name_masked (o : Option User) : o.map User.name = (o.map User.masked).map User.name := by
  cases o <;> rfl

theorem unseeing_requestSummaryOf (owner : Option User) (request : Option Request) :
    Unseeing (requestSummaryOf owner request) := by
  cases request with
  | none => exact .pure _
  | some request =>
    have hlookup : Unseeing (do
        let requester ← UserRepository.getById request.requesterId
        return some (⟨request, requester.map User.name⟩ : RequestSummary)) :=
      .of_user (fun _ _ _ h => UserRepository.coupled_getById h) (fun o => by rw [map_name_masked o]) fun _ => .pure _
    unfold requestSummaryOf requesterOf
    cases owner with
    | none => exact hlookup
    | some user =>
      dsimp only
      split_ifs
      · exact .pure _
      · exact hlookup

theorem requestSummaryOf_masked (owner : Option User) (request : Option Request) :
    requestSummaryOf owner request = requestSummaryOf (owner.map User.masked) request := by
  cases request with
  | none => rfl
  | some request =>
    cases owner with
    | none => rfl
    | some user =>
      have hid : user.masked.id = user.id := rfl
      simp only [requestSummaryOf, requesterOf, Option.map_some, hid]
      split_ifs
      · rfl
      · rfl

theorem unseeing_handoverSummaryOf (handover : Option HandoverRequest) : Unseeing (handoverSummaryOf handover) := by
  cases handover with
  | none => exact .pure _
  | some handover =>
    refine .of_user (fun _ _ _ h => UserRepository.coupled_getById h) (fun o => by rw [map_name_masked o]) fun o => ?_
    exact Unseeing.of_user (fun _ _ _ h => UserRepository.coupled_getById h) (fun o => by rw [map_name_masked o])
      fun _ => .pure _

theorem unseeing_getDetail (itemId : UUID) (order : OrderBy (Desc Request.createdAt)) :
    Unseeing (getDetail itemId order) := by
  refine (unseeing_getItemOr404 _).bind fun item => (ItemCategoryRepository.unseeing_getById _).bind fun _ => ?_
  refine (Blind.orRaise _ _).bind fun category => ?_
  refine Unseeing.of_user (fun _ _ _ h => coupled_ownerOf h) (fun owner => ?_) fun owner => ?_
  · have hsummary : owner.map userSummaryFrom = (owner.map User.masked).map userSummaryFrom := by
      cases owner <;> rfl
    rw [funext (requestSummaryOf_masked owner), hsummary]
  · refine (RequestRepository.unseeing_getActiveForItem _ _).bind fun _ => ?_
    refine (SupportRequestRepository.unseeing_listOpenForItem _).bind fun _ => ?_
    refine (HandoverRequestRepository.unseeing_getAcceptedForItem _).bind fun _ => ?_
    refine (unseeing_requestSummaryOf _ _).bind fun _ => (unseeing_handoverSummaryOf _).bind fun _ => ?_
    exact .pure _

end InventoryService

/-! ### The services -/

theorem Unseeing.shown {x : Service (Option α)} {f : α → β} {e : Failure}
    (hx : ∀ ctx db db', db.Alike db' → Coupled (fun o o' t t' => o.map f = o'.map f ∧ t.Alike t') x x ctx db db') :
    Unseeing (do let o ← x; let a ← orRaise o e; return f a) := by
  intro ctx db db' h
  refine (hx ctx db db' h).bind fun o o' t t' ho => ?_
  obtain ⟨hsame, ht⟩ := ho
  cases o <;> cases o'
  case none.none => exact .of_fails rfl rfl
  case none.some => exact absurd hsame nofun
  case some.none => exact absurd hsame nofun
  case some.some => exact .of_runs rfl rfl ⟨Option.some.inj hsame, ht⟩

theorem RequestService.unseeing_getDetail (requestId : UUID) : Unseeing (getDetail requestId) :=
  (RequestRepository.unseeing_getDetail requestId).bind fun _ => .orRaise _ _

theorem DashboardService.unseeing_getSummary : Unseeing getSummary := by
  have hcounts : Unseeing ItemRepository.countByStatus := .query fun _ _ => rfl
  have hcount {α : Type} [Keyed α UUID] {table : Db → Table α} {condition : α → Prop} [DecidablePred condition]
      (htable : ∀ db us, table { db with users := us } = table db) : Unseeing (countWhere table condition) :=
    .query fun db us => by rw [htable]
  refine hcounts.bind fun _ => (hcount fun _ _ => rfl).bind fun _ => (hcount fun _ _ => rfl).bind fun _ => ?_
  exact (hcount fun _ _ => rfl).bind fun _ => (hcount fun _ _ => rfl).bind fun _ => .pure _

/-! ### Lists of users -/

theorem DropdownService.unseeing_options (role : UserRole)
    {order : OrderBy (Asc fun user : User => collation.sortKey user.name)} (horder : order.Respects User.masked) :
    Unseeing (do
      let users ← UserRepository.listActiveByRole collation role order
      return users.map userSummaryFrom) := by
  let shown (u : User) : Bool := u.role = role ∧ u.isActive = true
  have hsummaries (rows : List User) : (order.sort (rows.filter shown)).map userSummaryFrom =
      (order.sort ((rows.map User.masked).filter shown)).map userSummaryFrom := by
    have hshown : shown ∘ User.masked = shown := rfl
    have hsummary : userSummaryFrom ∘ User.masked = userSummaryFrom := rfl
    rw [List.filter_map, hshown, horder, List.map_map, hsummary]
  refine Blind.read (f := fun db : Db => (order.sort (db.users.rows.filter shown)).map userSummaryFrom) ?_
  intro db db' h
  rw [hsummaries, h.users, ← hsummaries]

theorem UserService.unseeing_listUsers (role : Option UserRole) (isActive : Option Bool) (search : Option String)
    (pagination : PaginationParams) {order : OrderBy (Desc fun row : UserRepository.UserListRow => row.user.createdAt)}
    (horder : order.Respects UserRepository.UserListRow.masked) :
    Unseeing (listUsers collation role isActive search pagination order) := by
  let shown (rows : List UserRepository.UserListRow) : Page UserListEntry :=
    ⟨(paginate order pagination rows).items.map userListEntryFrom, rows.length, pagination.page, pagination.pageSize⟩
  have hentry : userListEntryFrom ∘ UserRepository.UserListRow.masked = userListEntryFrom := rfl
  have hshown (rows : List UserRepository.UserListRow) :
      shown rows = shown (rows.map UserRepository.UserListRow.masked) := by
    have hsort : order.sort (rows.map UserRepository.UserListRow.masked) =
        (order.sort rows).map UserRepository.UserListRow.masked := horder rows
    simp only [shown, paginate, hsort, ← List.map_drop, ← List.map_take, List.map_map, hentry, List.length_map]
  refine Blind.read (f := fun db : Db =>
    shown ((UserRepository.userQuery collation role isActive search db).rows db.users)) fun db db' h => ?_
  rw [hshown, UserRepository.masked_rows h, ← hshown]

/-! ### All views -/

/-- Where the view lists users, the order of the database does not depend on their hashes. -/
def View.OrderBlind : View collation → Prop
  | managers order | employees order => order.Respects User.masked
  | users _ _ _ _ order => order.Respects UserRepository.UserListRow.masked
  | _ => True

/-- **No view tells stores apart that differ in password hashes.** -/
theorem View.unseeing_run (view : View collation) (h : view.OrderBlind) : Unseeing view.run := by
  cases view with
  | summary => exact DashboardService.unseeing_getSummary
  | recentRequests => exact RequestRepository.unseeing_listRecent _ _
  | openSupport => exact SupportRequestRepository.unseeing_listOpen _ _
  | itemCategories => exact ItemCategoryRepository.unseeing_listActive _
  | managers => exact DropdownService.unseeing_options _ h
  | employees => exact DropdownService.unseeing_options _ h
  | extensionRequests => exact ExtensionRequestRepository.unseeing_listFiltered _ _
  | extensionDetail =>
    rw [run, ExtensionService.getDetail, Txn.bind_assoc]
    exact Unseeing.shown fun _ _ _ h => ExtensionRequestRepository.coupled_getDetail h
  | handovers => exact HandoverRequestRepository.unseeing_listFiltered _ _ _
  | items => exact ItemRepository.unseeing_listItems _ _ _ _ _ _ _
  | clientAvailable => exact ItemRepository.unseeing_listClientAvailable _ _ _ _
  | itemDetail => exact InventoryService.unseeing_getDetail _ _
  | timeline => exact (DeviceLogRepository.unseeing_listForItem _ _ _).bind fun _ => .pure _
  | itemBookings =>
    exact (AssignmentService.unseeing_getItemOr404 _).bind fun _ => RequestRepository.unseeing_listBookingsForItem _
  | requests => exact RequestRepository.unseeing_listRequests _ _ _ _ _ _ _ _ _
  | requestDetail => exact RequestService.unseeing_getDetail _
  | itApprovals => exact RequestRepository.unseeing_listItApprovals _ _
  | suggestedDevices =>
    refine (AssignmentService.unseeing_getRequestOr404 _).bind fun _ => ?_
    exact ItemRepository.unseeing_listSuggestedDevices _ _ _
  | outbound => exact (RequestRepository.unseeing_listOutboundShippingQueue _).bind fun _ => .pure _
  | returns => exact (RequestRepository.unseeing_listReturnShippingQueue _).bind fun _ => .pure _
  | supportRequests => exact SupportRequestRepository.unseeing_listFiltered _ _ _ _
  | supportDetail => exact Unseeing.shown fun _ _ _ h => SupportRequestRepository.coupled_getDetail h
  | users => exact UserService.unseeing_listUsers _ _ _ _ h

/-- It ends in the same way, in whatever order it lists users. -/
theorem View.coupled_run (view : View collation) (h : db.Alike db') :
    Coupled (fun _ _ t t' => t.Alike t') view.run view.run ctx db db' := by
  have hblind (hview : view.OrderBlind) : Coupled (fun _ _ t t' => t.Alike t') view.run view.run ctx db db' :=
    (view.unseeing_run hview ctx db db' h).mono fun hab => hab.2
  cases view with
  | managers => exact .of_runs rfl rfl h
  | employees => exact .of_runs rfl rfl h
  | users => exact .of_runs rfl rfl h
  | _ => exact hblind trivial

end AssetPilot
