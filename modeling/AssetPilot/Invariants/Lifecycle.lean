import AssetPilot.Custody.Lifecycle
import AssetPilot.Invariants.Store

/-!
# The device lifecycle

The edges of the lifecycle, with the operations they belong to. `start`, `_swap` and `_mark_lost` write the
status of the ticket's device without looking at the one it has, and a swap does not look at the one it is
given either.
-/

namespace AssetPilot

open Relational Custody Txn

variable {ctx : Ctx} {db db' : Db}

/-- The edges along which the call moves a device. -/
def Op.lifecycle : Op → List (DeviceStatus × DeviceStatus)
  | .assign .. | .directAssign .. => [(.available, .assigned)]
  | .ship .. => [(.assigned, .shippingPending)]
  | .confirmDelivery .. => [(.shippingPending, .assigned)]
  | .completeReturn .. => [.assigned, .returnShippingPending].product _ALLOWED_NEXT_STATUSES
  | .start .. => [(.assigned, .underRepair)]
  | .resolve _ .repairedInPlace .. => [(.underRepair, .assigned)]
  | .resolve _ .swapped .. => (.available, .assigned) :: [.assigned, .underRepair].product _ALLOWED_NEXT_STATUSES
  | .resolve _ .markedLost .. =>
    [.assigned, .shippingPending, .returnShippingPending, .underRepair].product [.lost]
  | _ => []

/-- The call is the administrator's override. -/
def Op.Overrides : Op → Prop
  | .changeStatus .. => True
  | _ => False

/-- Every item whose status the call changes goes along one of its edges. -/
def Op.FollowsLifecycle (op : Op) (db db' : Db) : Prop :=
  ∀ i ∈ db.items.rows, ∀ i' ∈ db'.items.get? i.id, i'.status ≠ i.status → (i.status, i'.status) ∈ op.lifecycle

instance (op : Op) (db db' : Db) : Decidable (op.FollowsLifecycle db db') :=
  inferInstanceAs (Decidable (∀ i ∈ _, ∀ i' ∈ _, _))

/-- The call turns the item to `s` along one of its edges, if it is not there already. -/
def Op.MayTurn (op : Op) (i : Item) (s : DeviceStatus) : Prop := s = i.status ∨ (i.status, s) ∈ op.lifecycle

instance (op : Op) (i : Item) (s : DeviceStatus) : Decidable (op.MayTurn i s) :=
  inferInstanceAs (Decidable (_ ∨ _))

/-- A damaged device is assigned or in repair when its ticket is started, a swapped one when it is taken
back, and then to a status that a return may give; a lost one is with an employee, in transit, or in
repair. -/
def Op.KeepsLifecycle (db : Db) : Op → Prop
  | op@(.start ticketId _) => ∀ t ∈ db.supportRequests.get? ticketId, t.type = .damage →
      ∀ i ∈ db.items.get? t.itemId, op.MayTurn i .underRepair
  | op@(.resolve ticketId .swapped _ _ next _) => ∀ t ∈ db.supportRequests.get? ticketId,
      ∀ i ∈ db.items.get? t.itemId, ∀ s ∈ next, op.MayTurn i s
  | op@(.resolve ticketId .markedLost _ _ _ _) => ∀ t ∈ db.supportRequests.get? ticketId,
      ∀ i ∈ db.items.get? t.itemId, op.MayTurn i .lost
  | _ => True

/-! ### One call -/

/-- The edges as a relation. -/
def Op.Edge (op : Op) (s s' : DeviceStatus) : Prop := (s, s') ∈ op.lifecycle

theorem Op.followsLifecycle_iff {op : Op} :
    op.FollowsLifecycle db db' ↔ Follows op.Edge db.custody db'.custody := by
  constructor
  · intro h d x x' hx hx'
    obtain ⟨i, hi, rfl⟩ := Db.custody_device_eq_some.mp hx
    obtain ⟨i', hi', rfl⟩ := Db.custody_device_eq_some.mp hx'
    obtain rfl : i.id = d := Table.get?_key hi
    exact or_iff_not_imp_left.mpr (h i (Table.get?_mem hi) i' hi')
  · intro h i hi i' hi' hne
    exact (h i.id i.custody i'.custody (Db.custody_device (Table.mem_iff_get?.mp hi))
      (Db.custody_device hi')).resolve_left hne

theorem Op.mayTurn_iff {op : Op} {i : Item} {itemId : UUID} {s : DeviceStatus}
    (hi : db.items.get? itemId = some i) : db.custody.MayTurn op.Edge itemId s ↔ op.MayTurn i s :=
  State.mayTurn_iff (Db.custody_device hi)

theorem forall_get? {α : Type} {o : Option α} {a : α} (h : o = some a) {P : α → Prop} :
    (∀ x ∈ o, P x) ↔ P a := by
  subst h
  simp

/-- **One call follows the lifecycle** exactly when the devices it turns are where it expects them. -/
theorem lifecycle_of_runs {op : Op} (hadmitted : op.Admitted) (hmanual : ¬ op.Overrides)
    (h : op.run.Runs ctx db () db') : op.FollowsLifecycle db db' ↔ op.KeepsLifecycle db := by
  rw [Op.followsLifecycle_iff]
  by_cases hstart : ∃ ticketId actorId, op = .start ticketId actorId
  · obtain ⟨ticketId, actorId, rfl⟩ := hstart
    obtain ⟨row, h⟩ := runs_discard.mp h
    obtain ⟨t, ht, ⟨hother, hstep⟩ | ⟨hdamage, i, hi, hstep⟩⟩ := SupportService.start_refines h
    · rw [hstep.follows_iff]
      exact iff_of_true trivial ((forall_get? ht).mpr fun hdamage => absurd hdamage hother)
    · rw [hstep.follows_iff, Act.Along, Op.mayTurn_iff hi]
      simp only [Op.KeepsLifecycle, forall_get? ht, forall_get? hi, hdamage, forall_const]
  · obtain ⟨a, ha, hstep⟩ := Op.refines h
    rw [hstep.follows_iff]
    cases ha with
    | start | startRepair => exact absurd ⟨_, _, rfl⟩ hstart
    | changeStatus => exact absurd trivial hmanual
    | assign | directAssign => exact iff_of_true (List.mem_singleton_self _) trivial
    | ship hr hd hi hstatus =>
      refine iff_of_true ((Op.mayTurn_iff hi).mpr (.inr ?_)) trivial
      rw [hstatus]
      exact List.mem_singleton_self _
    | confirmDelivery hr hd hi hstatus =>
      refine iff_of_true ((Op.mayTurn_iff hi).mpr (.inr ?_)) trivial
      rw [hstatus]
      exact List.mem_singleton_self _
    | completeReturn hr hd hi hstatus =>
      exact iff_of_true ((Op.mayTurn_iff hi).mpr (.inr (List.pair_mem_product.mpr ⟨hstatus, hadmitted⟩))) trivial
    | repairedInPlace => exact iff_of_true (List.mem_singleton_self _) trivial
    | swapped ht hopen hi =>
      rw [Act.Along, Op.mayTurn_iff hi]
      simp only [Op.KeepsLifecycle, forall_get? ht, forall_get? hi, forall_get? rfl]
      exact and_iff_left List.mem_cons_self
    | markedLost ht =>
      simp only [Op.KeepsLifecycle, forall_get? ht]
      constructor
      · exact fun hturn i hi => (Op.mayTurn_iff hi).mp hturn
      · intro hturn x hx
        obtain ⟨i, hi, rfl⟩ := Db.custody_device_eq_some.mp hx
        exact hturn i hi
    | _ => exact iff_of_true trivial trivial

/-- The ticket of laptop 2 is started while the laptop is assigned. -/
theorem lifecycle_of_runs_start :
    (Op.start 1 9).FollowsLifecycle Sample.store (Sample.after [Sample.call (.start 1 9)]) := by
  have hkeeps : (Op.start 1 9).KeepsLifecycle Sample.store := by
    intro t ht _ i hi
    obtain rfl := Option.some.inj ht
    obtain rfl := Option.some.inj hi
    decide
  have hruns : (Op.start 1 9).run.Runs Sample.ctx Sample.store ()
      (Sample.after [Sample.call (.start 1 9)]) := rfl
  have hiff : (Op.start 1 9).FollowsLifecycle Sample.store _ ↔ (Op.start 1 9).KeepsLifecycle Sample.store :=
    lifecycle_of_runs trivial id hruns
  exact hiff.mpr hkeeps

/-- A second ticket reports damage of laptop 2, and the first one is resolved as a loss. -/
def Sample.lostAndDamaged : List Event :=
  [.portal Sample.ctx (.fileTicket (ticket 2 2 2 2 .damage)), call (.resolve 1 .markedLost none none none 9)]

/-- The second ticket is started, and the lost laptop goes to repair. -/
theorem start_not_followsLifecycle :
    let lost := Sample.after Sample.lostAndDamaged
    let started := (Sample.call (.start 2 9)).exec lost
    (Op.start 2 9).run.Runs Sample.ctx lost () started ∧ ¬ (Op.start 2 9).FollowsLifecycle lost started := by
  exact ⟨rfl, by decide⟩

end AssetPilot
