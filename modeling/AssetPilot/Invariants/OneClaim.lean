import AssetPilot.Invariants.Store

/-!
# One device, one active claim

The partial unique index has `status` in its key, so by itself it forbids only two requests in the same
status. Because only an assigned request carries a device, it does forbid any two open requests on one
device; the booking queries see at most one booking.
-/

namespace AssetPilot

open Relational Custody System Txn

variable {db db' : Db}

/-- No two open requests have one device. -/
def Db.OneClaim (db : Db) : Prop :=
  ∀ r ∈ db.requests.rows, ∀ q ∈ db.requests.rows, r.assignedItemId ≠ none →
    q.assignedItemId = r.assignedItemId → r.status ∉ _TERMINAL_STATUSES →
    q.status ∉ _TERMINAL_STATUSES → r = q

theorem oneClaim_of_carried (hsound : Sound db.custody) (h : Carried db.custody) : db.OneClaim := by
  intro r hr q hq hdevice hsame hropen hqopen
  obtain ⟨d, hd⟩ := Option.ne_none_iff_exists'.mp hdevice
  have hrclaim := Db.custody_claim (Table.mem_iff_get?.mp hr)
  have hqclaim := Db.custody_claim (Table.mem_iff_get?.mp hq)
  have hid : r.id = q.id := h.unique hsound hrclaim hqclaim hd (hsame.trans hd)
    (fun he => hropen (mem_TERMINAL_STATUSES.mpr he)) (fun he => hqopen (mem_TERMINAL_STATUSES.mpr he))
  have hrow : db.requests.get? r.id = some r := Table.mem_iff_get?.mp hr
  rw [hid] at hrow
  exact Option.some.inj (hrow.symm.trans (Table.mem_iff_get?.mp hq))

theorem Db.OneClaim.booking (h : db.OneClaim) {d : UUID} {r q : Request} (hr : r ∈ db.requests.rows)
    (hq : q ∈ db.requests.rows) (hrb : r.IsBookingFor d) (hqb : q.IsBookingFor d) : r = q := by
  refine h r hr q hq ?_ (hqb.1.trans hrb.1.symm) ?_ ?_
  · rw [hrb.1]
    exact Option.some_ne_none d
  · rw [hrb.2]
    decide
  · rw [hqb.2]
    decide

/-! ### The booking queries -/

theorem length_le_one_of_nodup {α : Type} {l : List α} (hl : l.Nodup) (h : ∀ a ∈ l, ∀ b ∈ l, a = b) :
    l.length ≤ 1 := by
  match l, hl, h with
  | [], _, _ => exact Nat.zero_le 1
  | [a], _, _ => exact Nat.le_refl 1
  | a :: b :: l, hl, h =>
    have hab : a = b := h a (by simp) b (by simp)
    rw [List.nodup_cons] at hl
    exact absurd (hab ▸ List.mem_cons_self) hl.1

theorem length_bookings_le (users : Table User) (itemId : UUID) (rows : List Request) :
    ((rows.filterMap fun r => (users.get? r.requesterId).map fun u => (⟨r, u.name⟩ : BookingRow)).filter
      fun row => row.request.IsBookingFor itemId).length ≤
      (rows.filter fun r => r.IsBookingFor itemId).length := by
  induction rows with
  | nil => exact Nat.le_refl 0
  | cons r rows ih =>
    rw [List.filterMap_cons, List.filter_cons]
    rcases users.get? r.requesterId with _ | u
    · by_cases hr : r.IsBookingFor itemId
      · simpa [hr] using Nat.le_succ_of_le ih
      · simpa [hr] using ih
    · by_cases hr : r.IsBookingFor itemId
      · simpa [hr, List.filter_cons] using ih
      · simpa [hr, List.filter_cons] using ih

theorem Db.OneClaim.length_bookings (h : db.OneClaim) {ctx : Ctx} {itemId : UUID}
    {bookings : List BookingRow}
    (hruns : (RequestRepository.listBookingsForItem itemId).Runs ctx db bookings db') :
    bookings.length ≤ 1 := by
  simp only [RequestRepository.listBookingsForItem, runs_bind, runs_get, runs_pure] at hruns
  obtain ⟨_, _, ⟨rfl, -⟩, rfl, -⟩ := hruns
  rw [List.length_insertionSort]
  refine (length_bookings_le _ itemId _).trans (length_le_one_of_nodup ?_ fun r hr q hq => ?_)
  · exact (List.Nodup.of_map _ (Table.nodup _)).filter _
  · simp only [List.mem_filter, decide_eq_true_eq] at hr hq
    exact h.booking hr.1 hq.1 hr.2 hq.2

/-- The answer of `update_booking_range` to an overlap. -/
def rangeConflict : Failure :=
  conflictException "The new range overlaps another active booking for this device."

theorem Db.OneClaim.updateBookingRange_not_fails (h : db.OneClaim) {ctx : Ctx} {requestId : UUID}
    {f t : Datetime} :
    ¬ (AssignmentService.updateBookingRange requestId f t).Fails ctx db rangeConflict := by
  intro hfails
  simp only [AssignmentService.updateBookingRange, fails_bind, AssignmentService.fails_getRequestOr404,
    AssignmentService.runs_getRequestOr404, fails_raiseIf, runs_raiseIf, fails_orRaise, runs_orRaise,
    RequestRepository.fails_hasOverlappingAssignedBooking,
    RequestRepository.runs_hasOverlappingAssignedBooking, RequestRepository.fails_update] at hfails
  rcases hfails with ⟨-, hne⟩ | ⟨r, s, ⟨hr, rfl⟩, hfails⟩
  · cases hne
  rcases hfails with ⟨-, hne⟩ | ⟨_, s, ⟨hassigned, rfl⟩, hfails⟩
  · exact absurd hne (by decide)
  rcases hfails with ⟨-, hne⟩ | ⟨d, s, ⟨hd, rfl⟩, hfails⟩
  · cases hne
  rcases hfails with hfalse | ⟨_, s, ⟨rfl, rfl⟩, hfails⟩
  · exact hfalse
  rcases hfails with ⟨hany, -⟩ | ⟨_, s, ⟨-, rfl⟩, hfails⟩
  · -- another booking of the device would be the request itself
    obtain ⟨q, hq, hoverlaps⟩ := List.any_eq_true.mp hany
    simp only [decide_eq_true_eq] at hoverlaps
    have hrow := Table.get?_mem hr
    have hsame := h.booking hrow hq ⟨hd, not_not.mp hassigned⟩ hoverlaps.1.1
    exact hoverlaps.2 (congrArg some (congrArg Request.id hsame))
  · rcases constraintCheck_error.mp hfails with ⟨-, hne⟩ | ⟨-, -, hne⟩
    · cases hne
    · cases hne

/-- **One device, one active claim**, in every state that a run reaches: no two open requests have one
device, a device has at most one booking, and adjusting a range meets no overlap. -/
theorem oneClaim_of_run (h : db.Settled) (run : Run Step TicketsTied db db') :
    db'.OneClaim ∧
      (∀ ctx itemId bookings db'',
        (RequestRepository.listBookingsForItem itemId).Runs ctx db' bookings db'' →
          bookings.length ≤ 1) ∧
      ∀ ctx requestId f t,
        ¬ (AssignmentService.updateBookingRange requestId f t).Fails ctx db' rangeConflict := by
  obtain ⟨hsound, hcarried⟩ := carried_of_run h run
  have hone := oneClaim_of_carried hsound hcarried
  exact ⟨hone, fun _ _ _ _ hruns => hone.length_bookings hruns,
    fun _ _ _ _ => hone.updateBookingRange_not_fails⟩

/-- The waiting request receives the free laptop. -/
theorem oneClaim_of_run_assign :
    let db' := (Sample.call (.assign 1 1 0 10 false 9)).exec Sample.store
    db'.OneClaim ∧
      (∀ ctx itemId bookings db'',
        (RequestRepository.listBookingsForItem itemId).Runs ctx db' bookings db'' →
          bookings.length ≤ 1) ∧
      ∀ ctx requestId f t,
        ¬ (AssignmentService.updateBookingRange requestId f t).Fails ctx db' rangeConflict :=
  oneClaim_of_run (by decide : Sample.store.Settled)
    (.step .refl (Sample.call (.assign 1 1 0 10 false 9)) trivial rfl)

end AssetPilot
