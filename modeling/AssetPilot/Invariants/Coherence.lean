import AssetPilot.Invariants.Store

/-!
# Coherent stores

A flush checks the row that it writes against the constraints of its table; the rows that are stored
already it does not check again. They satisfy their constraints in every state all the same: keys are never
deleted, and a unique index that the written row satisfies holds of the rows beside it.
-/

namespace AssetPilot

open Relational System Txn

variable {ctx : Ctx} {db db' : Db} {e : Event}

/-- Every stored row satisfies the constraints of its table. -/
structure Db.Coherent (db : Db) : Prop where
  users : ∀ u ∈ db.users.rows, Model.constraints db u = .ok ()
  items : ∀ i ∈ db.items.rows, Model.constraints db i = .ok ()
  requests : ∀ r ∈ db.requests.rows, Model.constraints db r = .ok ()
  supportRequests : ∀ t ∈ db.supportRequests.rows, Model.constraints db t = .ok ()
  extensionRequests : ∀ x ∈ db.extensionRequests.rows, Model.constraints db x = .ok ()

instance (db : Db) : Decidable db.Coherent :=
  decidable_of_iff ((∀ u ∈ db.users.rows, Model.constraints db u = .ok ()) ∧
    (∀ i ∈ db.items.rows, Model.constraints db i = .ok ()) ∧
    (∀ r ∈ db.requests.rows, Model.constraints db r = .ok ()) ∧
    (∀ t ∈ db.supportRequests.rows, Model.constraints db t = .ok ()) ∧
    ∀ x ∈ db.extensionRequests.rows, Model.constraints db x = .ok ())
    ⟨fun ⟨h₁, h₂, h₃, h₄, h₅⟩ => ⟨h₁, h₂, h₃, h₄, h₅⟩,
      fun h => ⟨h.users, h.items, h.requests, h.supportRequests, h.extensionRequests⟩⟩

/-! ### The constraints of a row -/

/-- The email is another. -/
def User.EmailsDiffer (x u : User) : Prop := x.email ≠ u.email

/-- The two unique columns of `item` are others. -/
def Item.LabelsDiffer (x i : Item) : Prop := x.serialNo ≠ i.serialNo ∧ x.qrCodeToken ≠ i.qrCodeToken

/-- `uq_one_active_request_per_item` admits both. -/
def Request.Compatible (x r : Request) : Prop := ¬ Db.clashes x r

namespace Db

/-- The constraints of a user but the unique email: the columns and the foreign keys. -/
def UserRefers (db : Db) (u : User) : Prop :=
  u.Fits ∧ u.passwordHash ≠ none ∧ db.users.References u.managerId

def ItemRefers (db : Db) (i : Item) : Prop :=
  i.Fits ∧ db.categories.References i.categoryId ∧ db.users.References i.currentOwnerId

def RequestRefers (db : Db) (r : Request) : Prop :=
  db.users.References r.requesterId ∧ db.categories.References r.categoryId ∧
    db.items.References r.assignedItemId ∧ db.users.References r.managerId ∧
    db.users.References r.itDecidedBy ∧ db.users.References r.cancelledBy ∧
    db.users.References r.completedBy

end Db

theorem User.constraints_iff {u : User} : Model.constraints db u = .ok () ↔
    Table.Apart EmailsDiffer db.users u ∧ db.UserRefers u := by
  refine constraintCheck_ok.trans ⟨?_, ?_⟩
  · rintro ⟨hfits, hhash, hapart, hrefs⟩
    exact ⟨hapart, hfits, hhash, hrefs⟩
  · rintro ⟨hapart, hfits, hhash, hrefs⟩
    exact ⟨hfits, hhash, hapart, hrefs⟩

theorem Item.constraints_iff {i : Item} : Model.constraints db i = .ok () ↔
    Table.Apart LabelsDiffer db.items i ∧ db.ItemRefers i := by
  refine constraintCheck_ok.trans ⟨?_, ?_⟩
  · rintro ⟨hfits, hapart, hrefs⟩
    exact ⟨hapart, hfits, hrefs⟩
  · rintro ⟨hapart, hfits, hrefs⟩
    exact ⟨hfits, hapart, hrefs⟩

theorem Request.constraints_iff {r : Request} : Model.constraints db r = .ok () ↔
    Table.Apart Compatible db.requests r ∧ db.RequestRefers r :=
  constraintCheck_ok.trans (and_iff_right trivial)

theorem SupportRequest.constraints_iff {t : SupportRequest} :
    Model.constraints db t = .ok () ↔ db.SupportRequestIntegral t :=
  constraintCheck_ok.trans (and_iff_right trivial)

theorem ExtensionRequest.constraints_iff {x : ExtensionRequest} :
    Model.constraints db x = .ok () ↔ db.ExtensionRequestIntegral x :=
  constraintCheck_ok.trans (and_iff_right trivial)

theorem User.emailsDiffer_symm (x u : User) (h : x.EmailsDiffer u) : u.EmailsDiffer x := h.symm

theorem Item.labelsDiffer_symm (x i : Item) (h : x.LabelsDiffer i) : i.LabelsDiffer x :=
  ⟨h.1.symm, h.2.symm⟩

theorem Request.compatible_symm (x r : Request) (h : x.Compatible r) : r.Compatible x := by
  rintro ⟨hactive, hdevice, hitem, hstatus⟩
  exact h ⟨hstatus ▸ hactive, hitem ▸ hdevice, hitem.symm, hstatus.symm⟩

/-! ### Keys are kept -/

/-- What `db` can refer to, `db'` can refer to. -/
structure Db.KeysKept (db db' : Db) : Prop where
  categories : ∀ {k}, db.categories.References k → db'.categories.References k
  users : ∀ {k}, db.users.References k → db'.users.References k
  items : ∀ {k}, db.items.References k → db'.items.References k
  requests : ∀ {k}, db.requests.References k → db'.requests.References k
  supportRequests : ∀ {k}, db.supportRequests.References k → db'.supportRequests.References k
  extensionRequests : ∀ {k}, db.extensionRequests.References k → db'.extensionRequests.References k
  handoverRequests : ∀ {k}, db.handoverRequests.References k → db'.handoverRequests.References k

namespace Db.KeysKept

theorem refl (db : Db) : KeysKept db db := ⟨id, id, id, id, id, id, id⟩

theorem trans {db'' : Db} (h : KeysKept db db') (h' : KeysKept db' db'') : KeysKept db db'' :=
  ⟨fun hk => h'.categories (h.categories hk), fun hk => h'.users (h.users hk), fun hk => h'.items (h.items hk),
    fun hk => h'.requests (h.requests hk), fun hk => h'.supportRequests (h.supportRequests hk),
    fun hk => h'.extensionRequests (h.extensionRequests hk),
    fun hk => h'.handoverRequests (h.handoverRequests hk)⟩

theorem userRefers (hk : KeysKept db db') {u : User} (h : db.UserRefers u) : db'.UserRefers u := by
  obtain ⟨hfits, hhash, hmanager⟩ := h
  exact ⟨hfits, hhash, hk.users hmanager⟩

theorem itemRefers (hk : KeysKept db db') {i : Item} (h : db.ItemRefers i) : db'.ItemRefers i := by
  obtain ⟨hfits, hcategory, howner⟩ := h
  exact ⟨hfits, hk.categories hcategory, hk.users howner⟩

theorem requestRefers (hk : KeysKept db db') {r : Request} (h : db.RequestRefers r) : db'.RequestRefers r := by
  obtain ⟨h₁, h₂, h₃, h₄, h₅, h₆, h₇⟩ := h
  exact ⟨hk.users h₁, hk.categories h₂, hk.items h₃, hk.users h₄, hk.users h₅, hk.users h₆, hk.users h₇⟩

theorem supportRequestIntegral (hk : KeysKept db db') {t : SupportRequest}
    (h : db.SupportRequestIntegral t) : db'.SupportRequestIntegral t := by
  obtain ⟨h₁, h₂, h₃, h₄, h₅⟩ := h
  exact ⟨hk.items h₁, hk.users h₂, hk.requests h₃, hk.items h₄, hk.users h₅⟩

theorem extensionRequestIntegral (hk : KeysKept db db') {x : ExtensionRequest}
    (h : db.ExtensionRequestIntegral x) : db'.ExtensionRequestIntegral x := by
  obtain ⟨h₁, h₂, h₃, h₄⟩ := h
  exact ⟨hk.requests h₁, hk.users h₂, hk.users h₃, hk.users h₄⟩

theorem deviceLogIntegral (hk : KeysKept db db') {l : DeviceLog} (h : db.DeviceLogIntegral l) :
    db'.DeviceLogIntegral l := by
  obtain ⟨h₁, h₂, h₃, h₄, h₅, h₆⟩ := h
  exact ⟨hk.items h₁, hk.users h₂, hk.requests h₃, hk.supportRequests h₄, hk.extensionRequests h₅,
    hk.handoverRequests h₆⟩

theorem setUser (u : User) : KeysKept db (db.setUser u) :=
  ⟨id, Table.references_set.mpr, id, id, id, id, id⟩

theorem addUser {u : User} (hfresh : db.users.get? u.id = none) : KeysKept db (db.addUser u) :=
  ⟨id, Table.references_insert hfresh, id, id, id, id, id⟩

theorem setItem (i : Item) : KeysKept db (db.setItem i) :=
  ⟨id, id, Table.references_set.mpr, id, id, id, id⟩

theorem addItem {i : Item} (hfresh : db.items.get? i.id = none) : KeysKept db (db.addItem i) :=
  ⟨id, id, Table.references_insert hfresh, id, id, id, id⟩

theorem setRequest (r : Request) : KeysKept db (db.setRequest r) :=
  ⟨id, id, id, Table.references_set.mpr, id, id, id⟩

theorem addRequest {r : Request} (hfresh : db.requests.get? r.id = none) : KeysKept db (db.addRequest r) :=
  ⟨id, id, id, Table.references_insert hfresh, id, id, id⟩

theorem setSupportRequest (t : SupportRequest) : KeysKept db (db.setSupportRequest t) :=
  ⟨id, id, id, id, Table.references_set.mpr, id, id⟩

theorem setExtensionRequest (x : ExtensionRequest) : KeysKept db (db.setExtensionRequest x) :=
  ⟨id, id, id, id, id, Table.references_set.mpr, id⟩

theorem appendLog (l : DeviceLog) : KeysKept db (db.appendLog l) := ⟨id, id, id, id, id, id, id⟩

end Db.KeysKept

/-! ### One write -/

namespace Db.Coherent

variable (h : db.Coherent)
include h

theorem users_of_kept (hk : KeysKept db db') (hsame : db'.users = db.users) :
    ∀ u ∈ db'.users.rows, Model.constraints db' u = .ok () := by
  intro u hu
  obtain ⟨hapart, hrefs⟩ := User.constraints_iff.mp (h.users u (hsame ▸ hu))
  exact User.constraints_iff.mpr ⟨hsame ▸ hapart, hk.userRefers hrefs⟩

theorem items_of_kept (hk : KeysKept db db') (hsame : db'.items = db.items) :
    ∀ i ∈ db'.items.rows, Model.constraints db' i = .ok () := by
  intro i hi
  obtain ⟨hapart, hrefs⟩ := Item.constraints_iff.mp (h.items i (hsame ▸ hi))
  exact Item.constraints_iff.mpr ⟨hsame ▸ hapart, hk.itemRefers hrefs⟩

theorem requests_of_kept (hk : KeysKept db db') (hsame : db'.requests = db.requests) :
    ∀ r ∈ db'.requests.rows, Model.constraints db' r = .ok () := by
  intro r hr
  obtain ⟨hapart, hrefs⟩ := Request.constraints_iff.mp (h.requests r (hsame ▸ hr))
  exact Request.constraints_iff.mpr ⟨hsame ▸ hapart, hk.requestRefers hrefs⟩

theorem supportRequests_of_kept (hk : KeysKept db db') (hsame : db'.supportRequests = db.supportRequests) :
    ∀ t ∈ db'.supportRequests.rows, Model.constraints db' t = .ok () := by
  intro t ht
  exact SupportRequest.constraints_iff.mpr
    (hk.supportRequestIntegral (SupportRequest.constraints_iff.mp (h.supportRequests t (hsame ▸ ht))))

theorem extensionRequests_of_kept (hk : KeysKept db db')
    (hsame : db'.extensionRequests = db.extensionRequests) :
    ∀ x ∈ db'.extensionRequests.rows, Model.constraints db' x = .ok () := by
  intro x hx
  exact ExtensionRequest.constraints_iff.mpr
    (hk.extensionRequestIntegral
      (ExtensionRequest.constraints_iff.mp (h.extensionRequests x (hsame ▸ hx))))

theorem setUser {u : User} (hu : Model.constraints db u = .ok ()) : (db.setUser u).Coherent where
  users := by
    have hapart := Table.forall_apart_set User.emailsDiffer_symm
      (fun x hx => (User.constraints_iff.mp (h.users x hx)).1) (User.constraints_iff.mp hu).1
    have hrefs : ∀ x ∈ (db.users.set u).rows, db.UserRefers x := Table.forall_mem_set
      (fun x hx => (User.constraints_iff.mp (h.users x hx)).2) (User.constraints_iff.mp hu).2
    intro x hx
    exact User.constraints_iff.mpr ⟨hapart x hx, (KeysKept.setUser u).userRefers (hrefs x hx)⟩
  items := h.items_of_kept (.setUser u) rfl
  requests := h.requests_of_kept (.setUser u) rfl
  supportRequests := h.supportRequests_of_kept (.setUser u) rfl
  extensionRequests := h.extensionRequests_of_kept (.setUser u) rfl

theorem addUser {u : User} (hfresh : db.users.get? u.id = none) (hu : Model.constraints db u = .ok ()) :
    (db.addUser u).Coherent where
  users := by
    have hapart := Table.forall_apart_insert User.emailsDiffer_symm hfresh
      (fun x hx => (User.constraints_iff.mp (h.users x hx)).1) (User.constraints_iff.mp hu).1
    have hrefs : ∀ x ∈ (db.users.insert u).rows, db.UserRefers x := Table.forall_mem_insert hfresh
      (fun x hx => (User.constraints_iff.mp (h.users x hx)).2) (User.constraints_iff.mp hu).2
    intro x hx
    exact User.constraints_iff.mpr ⟨hapart x hx, (KeysKept.addUser hfresh).userRefers (hrefs x hx)⟩
  items := h.items_of_kept (.addUser hfresh) rfl
  requests := h.requests_of_kept (.addUser hfresh) rfl
  supportRequests := h.supportRequests_of_kept (.addUser hfresh) rfl
  extensionRequests := h.extensionRequests_of_kept (.addUser hfresh) rfl

theorem setItem {i : Item} (hi : Model.constraints db i = .ok ()) : (db.setItem i).Coherent where
  users := h.users_of_kept (.setItem i) rfl
  items := by
    have hapart := Table.forall_apart_set Item.labelsDiffer_symm
      (fun x hx => (Item.constraints_iff.mp (h.items x hx)).1) (Item.constraints_iff.mp hi).1
    have hrefs : ∀ x ∈ (db.items.set i).rows, db.ItemRefers x := Table.forall_mem_set
      (fun x hx => (Item.constraints_iff.mp (h.items x hx)).2) (Item.constraints_iff.mp hi).2
    intro x hx
    exact Item.constraints_iff.mpr ⟨hapart x hx, hrefs x hx⟩
  requests := h.requests_of_kept (.setItem i) rfl
  supportRequests := h.supportRequests_of_kept (.setItem i) rfl
  extensionRequests := h.extensionRequests_of_kept (.setItem i) rfl

theorem addItem {i : Item} (hfresh : db.items.get? i.id = none) (hi : Model.constraints db i = .ok ()) :
    (db.addItem i).Coherent where
  users := h.users_of_kept (.addItem hfresh) rfl
  items := by
    have hapart := Table.forall_apart_insert Item.labelsDiffer_symm hfresh
      (fun x hx => (Item.constraints_iff.mp (h.items x hx)).1) (Item.constraints_iff.mp hi).1
    have hrefs : ∀ x ∈ (db.items.insert i).rows, db.ItemRefers x := Table.forall_mem_insert hfresh
      (fun x hx => (Item.constraints_iff.mp (h.items x hx)).2) (Item.constraints_iff.mp hi).2
    intro x hx
    exact Item.constraints_iff.mpr ⟨hapart x hx, hrefs x hx⟩
  requests := h.requests_of_kept (.addItem hfresh) rfl
  supportRequests := h.supportRequests_of_kept (.addItem hfresh) rfl
  extensionRequests := h.extensionRequests_of_kept (.addItem hfresh) rfl

theorem setRequest {r : Request} (hr : Model.constraints db r = .ok ()) : (db.setRequest r).Coherent where
  users := h.users_of_kept (.setRequest r) rfl
  items := h.items_of_kept (.setRequest r) rfl
  requests := by
    have hapart := Table.forall_apart_set Request.compatible_symm
      (fun x hx => (Request.constraints_iff.mp (h.requests x hx)).1) (Request.constraints_iff.mp hr).1
    have hrefs : ∀ x ∈ (db.requests.set r).rows, db.RequestRefers x := Table.forall_mem_set
      (fun x hx => (Request.constraints_iff.mp (h.requests x hx)).2) (Request.constraints_iff.mp hr).2
    intro x hx
    exact Request.constraints_iff.mpr ⟨hapart x hx, hrefs x hx⟩
  supportRequests := h.supportRequests_of_kept (.setRequest r) rfl
  extensionRequests := h.extensionRequests_of_kept (.setRequest r) rfl

theorem addRequest {r : Request} (hfresh : db.requests.get? r.id = none)
    (hr : Model.constraints db r = .ok ()) : (db.addRequest r).Coherent where
  users := h.users_of_kept (.addRequest hfresh) rfl
  items := h.items_of_kept (.addRequest hfresh) rfl
  requests := by
    have hapart := Table.forall_apart_insert Request.compatible_symm hfresh
      (fun x hx => (Request.constraints_iff.mp (h.requests x hx)).1) (Request.constraints_iff.mp hr).1
    have hrefs : ∀ x ∈ (db.requests.insert r).rows, db.RequestRefers x := Table.forall_mem_insert hfresh
      (fun x hx => (Request.constraints_iff.mp (h.requests x hx)).2) (Request.constraints_iff.mp hr).2
    intro x hx
    exact Request.constraints_iff.mpr ⟨hapart x hx, hrefs x hx⟩
  supportRequests := h.supportRequests_of_kept (.addRequest hfresh) rfl
  extensionRequests := h.extensionRequests_of_kept (.addRequest hfresh) rfl

theorem setSupportRequest {t : SupportRequest} (ht : Model.constraints db t = .ok ()) :
    (db.setSupportRequest t).Coherent :=
  ⟨h.users, h.items, h.requests, Table.forall_mem_set h.supportRequests ht, h.extensionRequests⟩

theorem addSupportRequest {t : SupportRequest} (hfresh : db.supportRequests.get? t.id = none)
    (ht : Model.constraints db t = .ok ()) : (db.addSupportRequest t).Coherent :=
  ⟨h.users, h.items, h.requests, Table.forall_mem_insert hfresh h.supportRequests ht, h.extensionRequests⟩

theorem setExtensionRequest {x : ExtensionRequest} (hx : Model.constraints db x = .ok ()) :
    (db.setExtensionRequest x).Coherent :=
  ⟨h.users, h.items, h.requests, h.supportRequests, Table.forall_mem_set h.extensionRequests hx⟩

theorem addExtensionRequest {x : ExtensionRequest} (hfresh : db.extensionRequests.get? x.id = none)
    (hx : Model.constraints db x = .ok ()) : (db.addExtensionRequest x).Coherent :=
  ⟨h.users, h.items, h.requests, h.supportRequests,
    Table.forall_mem_insert hfresh h.extensionRequests hx⟩

theorem appendLog (l : DeviceLog) : (db.appendLog l).Coherent :=
  ⟨h.users, h.items, h.requests, h.supportRequests, h.extensionRequests⟩

end Db.Coherent

/-! ### One event -/

namespace Db.Coherent

theorem autoCloseOpenSupport {itemId : UUID} {u : Unit} (h : db.Coherent)
    (hruns : (ShippingService.autoCloseOpenSupport itemId).Runs ctx db u db') : db'.Coherent := by
  simp only [ShippingService.autoCloseOpenSupport, runs_bind,
    SupportRequestRepository.runs_listOpenForItem] at hruns
  obtain ⟨_, _, ⟨rfl, rfl⟩, hruns⟩ := hruns
  refine forEach_inv (P := Db.Coherent) (fun n t s u s' hs hturn => ?_) h hruns
  obtain ⟨t', -, ht', -, rfl⟩ := ShippingService.runs_closeTicket.mp hturn
  exact (hs.setSupportRequest ht').appendLog _

theorem startRepair {ticket : SupportRequest} {actorId : UUID} {u : Unit} (h : db.Coherent)
    (hruns : (SupportService.startRepair ticket actorId).Runs ctx db u db') : db'.Coherent := by
  rcases SupportService.runs_startRepair.mp hruns with ⟨-, rfl⟩ | ⟨-, i, -, i', -, hi', l, -, -, rfl⟩
  · exact h
  · exact (h.setItem hi').appendLog _

theorem applyResolution {ticket : SupportRequest} {item : Item} {resolution : SupportResolution}
    {newId : Option UUID} {next : Option DeviceStatus} {actorId : UUID} {u : Unit} (h : db.Coherent)
    (hruns : (SupportService.applyResolution ticket item resolution newId next actorId).Runs ctx db u db') :
    db'.Coherent := by
  cases resolution with
  | remoteResolved =>
    simp only [SupportService.applyResolution, runs_pure] at hruns
    obtain ⟨-, rfl⟩ := hruns
    exact h
  | repairedInPlace =>
    obtain ⟨-, i', -, hi', l, -, -, rfl⟩ := SupportService.runs_repairInPlace.mp hruns
    exact (h.setItem hi').appendLog _
  | swapped =>
    simp only [SupportService.applyResolution, runs_bind, runs_orRaise] at hruns
    obtain ⟨n, _, ⟨rfl, rfl⟩, s, _, ⟨rfl, rfl⟩, hruns⟩ := hruns
    obtain ⟨-, q, -, m, -, -, -, r, -, r', -, hr', db₁, rfl, o', -, ho', db₂, rfl, n', -, hn', l, -, -, l', -, -,
      rfl⟩ := SupportService.runs_swap.mp hruns
    exact ((((h.setRequest hr').setItem ho').setItem hn').appendLog _).appendLog _
  | markedLost =>
    obtain ⟨q, -, r, -, i', -, hi', r', -, hr', l, -, -, rfl⟩ := SupportService.runs_markLost.mp hruns
    exact ((h.setItem hi').setRequest hr').appendLog _

theorem insertUser {name email password : String} {role : UserRole} {user : User} (h : db.Coherent)
    (hruns : (UserService.insertUser name email role password).Runs ctx db user db') : db'.Coherent := by
  obtain ⟨-, hash, -, hfresh, hu, hborn, rfl⟩ := UserService.runs_insertUser.mp hruns
  have hid : user.id = ctx.uuid4 0 := hborn ▸ rfl
  exact h.addUser (hid ▸ hfresh) hu

theorem service {op : Op} (h : db.Coherent) (hruns : op.run.Runs ctx db () db') : db'.Coherent := by
  cases op <;> obtain ⟨row, hruns⟩ := runs_discard.mp hruns
  case createItem =>
    obtain ⟨-, -, hfresh, i, rfl, hi, -, -, rfl⟩ := InventoryService.runs_createItem.mp hruns
    exact (h.addItem hfresh hi).appendLog _
  case editItem =>
    obtain ⟨i, -, -, i', -, hi', ⟨_, hlog⟩, -⟩ := InventoryService.runs_editItem.mp hruns
    rcases InventoryService.runs_logChanges.mp hlog with ⟨-, rfl⟩ | ⟨-, -, rfl⟩
    · exact h.setItem hi'
    · exact (h.setItem hi').appendLog _
  case changeStatus =>
    obtain ⟨i, -, i', -, hi', l, -, -, -, rfl⟩ := InventoryService.runs_changeStatus.mp hruns
    exact (h.setItem hi').appendLog _
  case updateBookingRange =>
    obtain ⟨r, d, -, -, -, -, hr', -, rfl⟩ := AssignmentService.runs_updateBookingRange.mp hruns
    exact h.setRequest hr'
  case assign =>
    obtain ⟨r, -, -, i, -, -, -, -, r', -, hr', i', -, hi', -, -, rfl⟩ := AssignmentService.runs_assign.mp hruns
    exact ((h.setRequest hr').setItem hi').appendLog _
  case directAssign =>
    obtain ⟨i, -, -, -, -, u, -, -, r', rfl, hfresh, hr', i', -, hi', -, -, rfl⟩ :=
      AssignmentService.runs_directAssign.mp hruns
    exact ((h.addRequest hfresh hr').setItem hi').appendLog _
  case reject =>
    obtain ⟨r, -, -, hr', -, rfl⟩ := RequestService.runs_reject.mp hruns
    exact h.setRequest hr'
  case cancel =>
    obtain ⟨r, -, -, hr', -, rfl⟩ := RequestService.runs_cancel.mp hruns
    exact h.setRequest hr'
  case escalateToManager =>
    obtain ⟨r, -, -, hr', -, rfl⟩ := RequestService.runs_escalateToManager.mp hruns
    exact h.setRequest hr'
  case ship =>
    obtain ⟨r, -, -, i, -, -, r', -, hr', i', -, hi', l, -, -, -, rfl⟩ := ShippingService.runs_ship.mp hruns
    exact ((h.setRequest hr').setItem hi').appendLog _
  case confirmDelivery =>
    obtain ⟨r, -, i, -, -, r', -, hr', i', -, hi', l, -, -, -, rfl⟩ :=
      ShippingService.runs_confirmDelivery.mp hruns
    exact ((h.setRequest hr').setItem hi').appendLog _
  case completeReturn =>
    obtain ⟨r, -, i, -, -, r', -, hr', i', -, hi', l, -, -, l', -, -, ⟨_, hclose⟩, -⟩ :=
      ShippingService.runs_completeReturn.mp hruns
    exact ((((h.setRequest hr').setItem hi').appendLog _).appendLog _).autoCloseOpenSupport hclose
  case start =>
    obtain ⟨t, -, -, t', -, ht', ⟨_, hrepair⟩, -⟩ := SupportService.runs_start.mp hruns
    exact (h.setSupportRequest ht').startRepair hrepair
  case resolve =>
    obtain ⟨t, -, -, i, -, _, db₁, happly, t', -, ht', -, -, rfl⟩ := SupportService.runs_resolve.mp hruns
    exact ((h.applyResolution happly).setSupportRequest ht').appendLog _
  case approveExtension =>
    obtain ⟨x, -, -, -, r, -, r', -, hr', x', -, hx', d, -, l, -, -, -, rfl⟩ :=
      ExtensionService.runs_approve.mp hruns
    exact ((h.setRequest hr').setExtensionRequest hx').appendLog _
  case rejectExtension =>
    obtain ⟨x, -, -, r, -, x', -, hx', d, -, l, -, -, -, rfl⟩ := ExtensionService.runs_reject.mp hruns
    exact (h.setExtensionRequest hx').appendLog _
  case createUser =>
    obtain ⟨user, hinsert, -⟩ := UserService.runs_createUser.mp hruns
    exact h.insertUser hinsert
  case changeRole =>
    obtain ⟨v, -, v', -, hv', -, rfl⟩ := UserService.runs_changeRole.mp hruns
    exact h.setUser hv'
  case deactivate =>
    obtain ⟨v, -, -, v', -, hv', -, rfl⟩ := UserService.runs_deactivate.mp hruns
    exact h.setUser hv'
  case activate =>
    obtain ⟨v, -, v', -, hv', -, rfl⟩ := UserService.runs_activate.mp hruns
    exact h.setUser hv'
  case register =>
    obtain ⟨user, hinsert⟩ := AuthService.runs_register hruns
    exact h.insertUser hinsert

theorem portal {step : PortalStep} (h : db.Coherent) (hruns : step.run.Runs ctx db () db') :
    db'.Coherent := by
  cases step with
  | fileRequest r =>
    obtain ⟨-, r', hfresh, hr', hborn, rfl⟩ := PortalStep.runs_fileRequest.mp hruns
    have hid : r'.id = r.id := hborn ▸ rfl
    exact h.addRequest (hid ▸ hfresh) hr'
  | submitRequest p s =>
    obtain ⟨r, -, -, r', hr', -, rfl⟩ := PortalStep.runs_submitRequest.mp hruns
    exact h.setRequest hr'
  | decideRequest p approved note now =>
    obtain ⟨r, -, -, r', hr', -, rfl⟩ := PortalStep.runs_decideRequest.mp hruns
    exact h.setRequest hr'
  | fileTicket t =>
    obtain ⟨-, t', hfresh, ht', hborn, rfl⟩ := PortalStep.runs_fileTicket.mp hruns
    have hid : t'.id = t.id := hborn ▸ rfl
    exact h.addSupportRequest (hid ▸ hfresh) ht'
  | fileExtension x =>
    obtain ⟨-, x', hfresh, hx', hborn, rfl⟩ := PortalStep.runs_fileExtension.mp hruns
    have hid : x'.id = x.id := hborn ▸ rfl
    exact h.addExtensionRequest (hid ▸ hfresh) hx'
  | decideExtension p approved note now =>
    obtain ⟨x, -, -, x', hx', -, rfl⟩ := PortalStep.runs_decideExtension.mp hruns
    exact h.setExtensionRequest hx'
  | initiateReturn p url now =>
    obtain ⟨r, -, i, -, -, r', -, hr', i', -, hi', rfl⟩ := PortalStep.runs_initiateReturn.mp hruns
    exact (h.setRequest hr').setItem hi'

/-- **An event keeps the store coherent.** -/
theorem step (h : db.Coherent) (hcommits : e.Commits db db') : db'.Coherent := by
  cases hcommits with
  | service hruns => exact h.service hruns
  | portal hruns => exact h.portal hruns

/-- **Every reachable store is coherent.** -/
theorem of_run {ok : Db → Event → Prop} (h : db.Coherent) (run : Run Step ok db db') : db'.Coherent := by
  refine run.inv (P := Db.Coherent) (fun s e s' hs _ hstep => ?_) h
  rcases hstep.cases with rfl | hcommits
  · exact hs
  · exact hs.step hcommits

end Db.Coherent

end AssetPilot
