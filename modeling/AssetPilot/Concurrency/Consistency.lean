import AssetPilot.Concurrency.UnitOfWork

/-!
# Consistent stores

What the database guarantees of the stored requests and items at every moment: each row satisfies the
constraints of its table. A row that passes its constraints keeps that of all the others, so a commit
only has to answer for the rows it writes.
-/

namespace AssetPilot

open Relational Txn

theorem Item.constraints_ok {db : Db} {i : Item} :
    Model.constraints db i = .ok () ↔ i.Fits ∧ db.ItemIntegral i :=
  constraintCheck_ok

theorem Request.constraints_ok {db : Db} {r : Request} :
    Model.constraints db r = .ok () ↔ db.RequestIntegral r := by
  simp [Model.constraints, constraintCheck_ok]

namespace Db

/-- Every stored request and item satisfies the constraints of its table. -/
structure Consistent (db : Db) : Prop where
  requests : ∀ r ∈ db.requests.rows, db.RequestIntegral r
  items : ∀ i ∈ db.items.rows, i.Fits ∧ db.ItemIntegral i

instance (db : Db) : Decidable db.Consistent :=
  decidable_of_iff ((∀ r ∈ db.requests.rows, db.RequestIntegral r) ∧
    ∀ i ∈ db.items.rows, i.Fits ∧ db.ItemIntegral i)
    ⟨fun ⟨hr, hi⟩ => ⟨hr, hi⟩, fun h => ⟨h.requests, h.items⟩⟩

/-- A booking of the item is stored. -/
def Booked (db : Db) (itemId : UUID) : Prop := ∃ r ∈ db.requests.rows, r.IsBookingFor itemId

instance (db : Db) (itemId : UUID) : Decidable (db.Booked itemId) :=
  inferInstanceAs (Decidable (∃ r ∈ _, _))

variable {db : Db}

theorem clashes_symm {x r : Request} : clashes x r ↔ clashes r x := by
  constructor <;>
  · rintro ⟨hactive, hdevice, hsame, hstatus⟩
    exact ⟨hstatus ▸ hactive, hsame ▸ hdevice, hsame.symm, hstatus.symm⟩

theorem RequestIntegral.setRequest {r x : Request} (hx : db.RequestIntegral x)
    (hr : x.id ≠ r.id → ¬ clashes x r) : (db.setRequest r).RequestIntegral x := by
  obtain ⟨hunique, hrefs⟩ := hx
  refine ⟨fun y hy hne => ?_, hrefs⟩
  rcases Table.mem_set.mp hy with ⟨rfl, -⟩ | ⟨hy, -⟩
  · exact fun hclash => hr hne.symm (clashes_symm.mp hclash)
  · exact hunique y hy hne

theorem Consistent.setRequest {r : Request} (h : db.Consistent) (hr : db.RequestIntegral r) :
    (db.setRequest r).Consistent where
  requests x hx := by
    rcases Table.mem_set.mp hx with ⟨rfl, -⟩ | ⟨hx, hne⟩
    · exact hr.setRequest fun hne => absurd rfl hne
    · exact (h.requests x hx).setRequest fun _ => hr.1 x hx hne
  items := h.items

theorem RequestIntegral.addRequest {r x : Request} (hx : db.RequestIntegral x)
    (hfresh : db.requests.get? r.id = none) (hr : x.id ≠ r.id → ¬ clashes x r) :
    (db.addRequest r).RequestIntegral x := by
  obtain ⟨hunique, hrefs⟩ := hx
  refine ⟨fun y hy hne => ?_, hrefs⟩
  rcases (Table.mem_insert hfresh).mp hy with hy | rfl
  · exact hunique y hy hne
  · exact fun hclash => hr hne.symm (clashes_symm.mp hclash)

theorem Consistent.addRequest {r : Request} (h : db.Consistent) (hfresh : db.requests.get? r.id = none)
    (hr : db.RequestIntegral r) : (db.addRequest r).Consistent where
  requests x hx := by
    rcases (Table.mem_insert hfresh).mp hx with hx | rfl
    · exact (h.requests x hx).addRequest hfresh (hr.1 x hx)
    · exact hr.addRequest hfresh fun hne => absurd rfl hne
  items := h.items

theorem ItemIntegral.setItem {i x : Item} (hx : db.ItemIntegral x)
    (hi : x.id ≠ i.id → x.serialNo ≠ i.serialNo ∧ x.qrCodeToken ≠ i.qrCodeToken) :
    (db.setItem i).ItemIntegral x := by
  obtain ⟨hunique, hrefs⟩ := hx
  refine ⟨fun y hy hne => ?_, hrefs⟩
  rcases Table.mem_set.mp hy with ⟨rfl, -⟩ | ⟨hy, -⟩
  · exact ⟨(hi hne.symm).1.symm, (hi hne.symm).2.symm⟩
  · exact hunique y hy hne

theorem Consistent.setItem {i : Item} (h : db.Consistent) (hi : i.Fits ∧ db.ItemIntegral i) :
    (db.setItem i).Consistent where
  requests r hr := by
    obtain ⟨hunique, hrequester, hcategory, hitem, hrefs⟩ := h.requests r hr
    exact ⟨hunique, hrequester, hcategory, Table.references_set.mpr hitem, hrefs⟩
  items x hx := by
    rcases Table.mem_set.mp hx with ⟨rfl, -⟩ | ⟨hx, hne⟩
    · exact ⟨hi.1, hi.2.setItem fun hne => absurd rfl hne⟩
    · exact ⟨(h.items x hx).1, (h.items x hx).2.setItem fun _ => hi.2.1 x hx hne⟩

theorem Consistent.appendLog {l : DeviceLog} (h : db.Consistent) : (db.appendLog l).Consistent :=
  ⟨h.requests, h.items⟩

/-- The unique index lets no second booking of an item through. -/
theorem RequestIntegral.not_booked {r q : Request} {d : UUID} (h : db.RequestIntegral r)
    (hr : r.IsBookingFor d) (hq : q ∈ db.requests.rows) (hqb : q.IsBookingFor d) : q.id = r.id := by
  by_contra hne
  refine h.1 q hq hne ⟨?_, ?_, hqb.1.trans hr.1.symm, hqb.2.trans hr.2.symm⟩
  · rw [hr.2]
    rfl
  · rw [hr.1]
    exact Option.some_ne_none d

theorem Consistent.booking_unique (h : db.Consistent) {d : UUID} {r q : Request}
    (hr : r ∈ db.requests.rows) (hq : q ∈ db.requests.rows) (hrb : r.IsBookingFor d)
    (hqb : q.IsBookingFor d) : r.id = q.id :=
  (h.requests q hq).not_booked hqb hr hrb

end Db

end AssetPilot
