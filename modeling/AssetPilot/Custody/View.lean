import AssetPilot.Custody.Tickets
import AssetPilot.Custody.People
import AssetPilot.Operations

/-!
# Custody in the tables

`Db.custody` reads custody off the tables. A write of one row is an update of custody at its key, and
what the row constraints promise, custody keeps.
-/

namespace AssetPilot

open Relational Custody Txn
open SQLAlchemyRepository (flushed born)

def Item.custody (i : Item) : Device UUID := ⟨i.status, i.currentOwnerId⟩

def Request.claim (r : Request) : Claim UUID UUID := ⟨r.requesterId, r.status, r.assignedItemId⟩

def SupportRequest.ticket (t : SupportRequest) : Ticket UUID UUID :=
  ⟨t.itemId, t.requestId, t.status = .resolved⟩

theorem SupportRequest.ticket_of_opened {t : SupportRequest} (h : t.status = .opened) :
    t.ticket = ⟨t.itemId, t.requestId, false⟩ := by
  simp [SupportRequest.ticket, h]

/-- The custody that the tables record. -/
def Db.custody (db : Db) : State UUID UUID UUID UUID where
  device d := (db.items.get? d).map Item.custody
  claim r := (db.requests.get? r).map Request.claim
  ticket t := (db.supportRequests.get? t).map SupportRequest.ticket
  active u := (db.users.get? u).map User.isActive

/-! ### Writes -/

namespace Db

variable {db : Db} {k : UUID}

theorem custody_setItem {i i' : Item} (h : db.items.get? k = some i) (hid : i'.id = k) :
    (db.setItem i').custody = db.custody.setDevice k i'.custody := by
  subst hid
  ext d : 2
  · exact Table.map_get?_set h Item.custody d
  all_goals rfl

theorem custody_addItem {i : Item} (h : db.items.get? k = none) (hid : i.id = k) :
    (db.addItem i).custody = db.custody.setDevice k i.custody := by
  subst hid
  ext d : 2
  · exact Table.map_get?_insert h Item.custody d
  all_goals rfl

theorem custody_setRequest {r r' : Request} (h : db.requests.get? k = some r) (hid : r'.id = k) :
    (db.setRequest r').custody = db.custody.setClaim k r'.claim := by
  subst hid
  ext q : 2
  case claim => exact Table.map_get?_set h Request.claim q
  all_goals rfl

theorem custody_addRequest {r : Request} (h : db.requests.get? k = none) (hid : r.id = k) :
    (db.addRequest r).custody = db.custody.setClaim k r.claim := by
  subst hid
  ext q : 2
  case claim => exact Table.map_get?_insert h Request.claim q
  all_goals rfl

theorem custody_setSupportRequest {t t' : SupportRequest} (h : db.supportRequests.get? k = some t)
    (hid : t'.id = k) : (db.setSupportRequest t').custody = db.custody.setTicket k t'.ticket := by
  subst hid
  ext p : 2
  case ticket => exact Table.map_get?_set h SupportRequest.ticket p
  all_goals rfl

theorem custody_addSupportRequest {t : SupportRequest} (h : db.supportRequests.get? k = none)
    (hid : t.id = k) : (db.addSupportRequest t).custody = db.custody.setTicket k t.ticket := by
  subst hid
  ext p : 2
  case ticket => exact Table.map_get?_insert h SupportRequest.ticket p
  all_goals rfl

theorem custody_setUser {u u' : User} (h : db.users.get? k = some u) (hid : u'.id = k) :
    (db.setUser u').custody = db.custody.setActive k u'.isActive := by
  subst hid
  ext v : 2
  case active => exact Table.map_get?_set h User.isActive v
  all_goals rfl

theorem custody_addUser {u : User} (h : db.users.get? k = none) (hid : u.id = k) :
    (db.addUser u).custody = db.custody.setActive k u.isActive := by
  subst hid
  ext v : 2
  case active => exact Table.map_get?_insert h User.isActive v
  all_goals rfl

@[simp] theorem custody_appendLog (l : DeviceLog) : (db.appendLog l).custody = db.custody := rfl

@[simp] theorem custody_setExtensionRequest (x : ExtensionRequest) :
    (db.setExtensionRequest x).custody = db.custody := rfl

/-! ### Reads -/

theorem custody_device {i : Item} (h : db.items.get? k = some i) :
    db.custody.device k = some i.custody := congrArg (Option.map Item.custody) h

theorem custody_claim {r : Request} (h : db.requests.get? k = some r) :
    db.custody.claim k = some r.claim := congrArg (Option.map Request.claim) h

theorem custody_ticket {t : SupportRequest} (h : db.supportRequests.get? k = some t) :
    db.custody.ticket k = some t.ticket := congrArg (Option.map SupportRequest.ticket) h

theorem custody_active {u : User} (h : db.users.get? k = some u) :
    db.custody.active k = some u.isActive := congrArg (Option.map User.isActive) h

theorem custody_claim_eq_some {x : Claim UUID UUID} :
    db.custody.claim k = some x ↔ ∃ r, db.requests.get? k = some r ∧ r.claim = x :=
  Option.map_eq_some_iff

theorem custody_device_eq_some {x : Device UUID} :
    db.custody.device k = some x ↔ ∃ i, db.items.get? k = some i ∧ i.custody = x :=
  Option.map_eq_some_iff

theorem custody_ticket_eq_some {z : Ticket UUID UUID} :
    db.custody.ticket k = some z ↔ ∃ t, db.supportRequests.get? k = some t ∧ t.ticket = z :=
  Option.map_eq_some_iff

/-! ### Laws about every row -/

theorem forall_device {P : UUID → Device UUID → Prop} :
    (∀ d y, db.custody.device d = some y → P d y) ↔ ∀ i ∈ db.items.rows, P i.id i.custody := by
  constructor
  · intro h i hi
    exact h i.id i.custody (custody_device (Table.mem_iff_get?.mp hi))
  · intro h d y hd
    obtain ⟨i, hi, rfl⟩ := custody_device_eq_some.mp hd
    obtain rfl : i.id = d := Table.get?_key hi
    exact h i (Table.get?_mem hi)

theorem forall_claim {P : UUID → Claim UUID UUID → Prop} :
    (∀ q x, db.custody.claim q = some x → P q x) ↔ ∀ r ∈ db.requests.rows, P r.id r.claim := by
  constructor
  · intro h r hr
    exact h r.id r.claim (custody_claim (Table.mem_iff_get?.mp hr))
  · intro h q x hq
    obtain ⟨r, hr, rfl⟩ := custody_claim_eq_some.mp hq
    obtain rfl : r.id = q := Table.get?_key hr
    exact h r (Table.get?_mem hr)

theorem forall_active {P : UUID → Bool → Prop} :
    (∀ v b, db.custody.active v = some b → P v b) ↔ ∀ u ∈ db.users.rows, P u.id u.isActive := by
  constructor
  · intro h u hu
    exact h u.id u.isActive (custody_active (Table.mem_iff_get?.mp hu))
  · intro h v b hv
    obtain ⟨u, hu, rfl⟩ := Option.map_eq_some_iff.mp hv
    obtain rfl : u.id = v := Table.get?_key hu
    exact h u (Table.get?_mem hu)

theorem custody_holds {d u : UUID} :
    db.custody.Holds d u ↔ ∃ r ∈ db.requests.rows, r.IsBookingFor d ∧ r.requesterId = u := by
  constructor
  · rintro ⟨q, x, hq, hs, hd, hu⟩
    obtain ⟨r, hr, rfl⟩ := custody_claim_eq_some.mp hq
    exact ⟨r, Table.get?_mem hr, ⟨hd, hs⟩, hu⟩
  · rintro ⟨r, hr, ⟨hd, hs⟩, hu⟩
    exact ⟨r.id, r.claim, custody_claim (Table.mem_iff_get?.mp hr), hs, hd, hu⟩

theorem custody_holdsBeside {q d u : UUID} : db.custody.HoldsBeside q d u ↔
    ∃ r ∈ db.requests.rows, r.id ≠ q ∧ r.IsBookingFor d ∧ r.requesterId = u := by
  constructor
  · rintro ⟨p, x, hne, hp, hs, hd, hu⟩
    obtain ⟨r, hr, rfl⟩ := custody_claim_eq_some.mp hp
    obtain rfl : r.id = p := Table.get?_key hr
    exact ⟨r, Table.get?_mem hr, hne, ⟨hd, hs⟩, hu⟩
  · rintro ⟨r, hr, hne, ⟨hd, hs⟩, hu⟩
    exact ⟨r.id, r.claim, hne, custody_claim (Table.mem_iff_get?.mp hr), hs, hd, hu⟩

theorem claim_not_assigned {q : UUID} {r : Request} {s : RequestStatus} (hr : db.requests.get? q = some r)
    (hstatus : r.status = s) (hs : s ≠ .assigned) {x : Claim UUID UUID} (hx : db.custody.claim q = some x) :
    x.status ≠ .assigned := by
  obtain rfl := Option.some.inj ((custody_claim hr).symm.trans hx)
  exact fun ha => hs (hstatus.symm.trans ha)

end Db

theorem activeStatus_iff {s : RequestStatus} : Db.activeStatus s = true ↔ ¬ Ended s := by
  cases s <;> simp [Db.activeStatus, Ended]

theorem mem_TERMINAL_STATUSES {s : RequestStatus} : s ∈ _TERMINAL_STATUSES ↔ Ended s := by
  cases s <;> simp [_TERMINAL_STATUSES, Ended]

theorem mem_NON_TERMINAL_REQUEST_STATUSES {s : RequestStatus} :
    s ∈ UserRepository._NON_TERMINAL_REQUEST_STATUSES ↔ ¬ Ended s := by
  cases s <;> simp [UserRepository._NON_TERMINAL_REQUEST_STATUSES, Ended]

/-- **The partial unique index**: a row that passes it points at its device by right. -/
theorem exclusive_of_constraints {db : Db} {r : Request} {d : UUID}
    (h : Model.constraints db r = .ok ()) (hopen : ¬ Ended r.status) (hd : r.assignedItemId = some d) :
    db.custody.Exclusive r.id d r.status := by
  intro q x hq hx hxd hs
  obtain ⟨y, hy, rfl⟩ := Db.custody_claim_eq_some.mp hx
  have hid : y.id = q := Table.get?_key hy
  refine (constraintCheck_ok.mp h).2.1 y (Table.get?_mem hy) (hid ▸ hq) ⟨?_, ?_, ?_, hs⟩
  · exact activeStatus_iff.mpr hopen
  · exact hd ▸ Option.some_ne_none d
  · exact hxd.trans hd.symm

end AssetPilot
