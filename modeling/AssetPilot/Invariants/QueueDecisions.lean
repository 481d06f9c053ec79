import AssetPilot.Effects.Inversion
import AssetPilot.Invariants.Ownership

/-!
# Decisions on the queue strand no device

`reject`, `cancel` and `escalate_to_manager` write no item and no log row, because a request in the queue has
no device yet. That an assigned request is not in the queue is checked by two of them.
-/

namespace AssetPilot

open Relational Custody System Txn

variable {ctx : Ctx} {db db' : Db} {e : Event}

/-- The request that a decision on the queue is called for. -/
def Op.queueRequest : Op → Option UUID
  | .reject requestId _ _ _ => some requestId
  | .cancel requestId _ _ => some requestId
  | .escalateToManager requestId _ => some requestId
  | _ => none

/-- An assigned request has a device. -/
def Db.Equipped (db : Db) : Prop := ∀ r ∈ db.requests.rows, r.status = .assigned → r.assignedItemId ≠ none

instance (db : Db) : Decidable db.Equipped := inferInstanceAs (Decidable (∀ r ∈ _, _ → _))

/-- The request has no device just before the call, and the call writes no item and no log row. -/
structure StrandsNothing (requestId : UUID) (db db' : Db) : Prop where
  noDevice : ∀ r ∈ db.requests.get? requestId, r.assignedItemId = none
  items : db'.items = db.items
  log : db'.deviceLog = db.deviceLog

/-- No assigned request is cancelled. -/
def Op.SparesAssigned (db : Db) : Op → Prop
  | .cancel requestId _ _ => ∀ r ∈ db.requests.get? requestId, r.status ≠ .assigned
  | _ => True

/-! ### One event -/

theorem Db.Equipped.step (h : db.Equipped) (hcommits : e.Commits db db') : db'.Equipped := by
  refine hcommits.effects.requests.forall_mem ?_ ?_ h
  · intro r r' u hr hw hequipped
    cases hw with
    | service hw =>
      cases hw with
      | updateBookingRange | ship | confirmDelivery | approveExtension => exact hequipped
      | assign | swapped => exact fun _ => Option.some_ne_none _
      | reject | cancel | escalateToManager | completeReturn | markedLost =>
        exact fun hassigned => absurd hassigned (of_decide_eq_false rfl)
    | portal hw =>
      cases hw with
      | submitRequest hstatus hqueue =>
        intro hassigned
        rcases hqueue with rfl | rfl <;> exact absurd hassigned (of_decide_eq_false rfl)
      | @decideRequest _ approved =>
        intro hassigned
        cases approved <;> exact absurd hassigned (of_decide_eq_false rfl)
      | initiateReturn => exact hequipped
  · intro r u hc
    cases hc with
    | directAssign => exact fun _ => Option.some_ne_none _
    | fileRequest hfiled =>
      intro hassigned
      have hstatus : r.status = .assigned := hassigned
      exact absurd hfiled.2 (hstatus ▸ by decide)

theorem Op.queueRequest_status {op : Op} {requestId : UUID} (hop : op.queueRequest = some requestId)
    (h : op.run.Runs ctx db () db') : ∃ r, db.requests.get? requestId = some r ∧
      r.status ∉ _TERMINAL_STATUSES ∧ (r.status = .assigned → ¬ op.SparesAssigned db) := by
  cases op with
  | reject =>
    obtain rfl := Option.some.inj hop
    obtain ⟨row, h⟩ := runs_discard.mp h
    obtain ⟨r, hr, hstatus, -⟩ := RequestService.runs_reject.mp h
    exact ⟨r, hr, hstatus ▸ by decide, fun hassigned => absurd (hstatus.symm.trans hassigned) (by decide)⟩
  | cancel =>
    obtain rfl := Option.some.inj hop
    obtain ⟨row, h⟩ := runs_discard.mp h
    obtain ⟨r, hr, hopen, -⟩ := RequestService.runs_cancel.mp h
    exact ⟨r, hr, hopen, fun hassigned hspares => hspares r hr hassigned⟩
  | escalateToManager =>
    obtain rfl := Option.some.inj hop
    obtain ⟨row, h⟩ := runs_discard.mp h
    obtain ⟨r, hr, ⟨hstatus, -⟩, -⟩ := RequestService.runs_escalateToManager.mp h
    exact ⟨r, hr, hstatus ▸ by decide, fun hassigned => absurd (hstatus.symm.trans hassigned) (by decide)⟩
  | _ => exact nomatch hop

/-- Where only assigned requests carry a device, and all of them do, a decision strands nothing exactly when
it does not cancel an assigned request. -/
theorem strandsNothing_iff {op : Op} {requestId : UUID} (hcarried : Carried db.custody)
    (hequipped : db.Equipped) (hop : op.queueRequest = some requestId) (h : op.run.Runs ctx db () db') :
    StrandsNothing requestId db db' ↔ op.SparesAssigned db := by
  obtain ⟨r, hr, hopen, hspares⟩ := Op.queueRequest_status hop h
  obtain rfl : r.id = requestId := Table.get?_key hr
  constructor
  · intro hstrands
    have hdevice : r.assignedItemId = none := hstrands.noDevice r hr
    have hne : r.status ≠ .assigned := fun hassigned => hequipped r (Table.get?_mem hr) hassigned hdevice
    cases op with
    | cancel =>
      obtain rfl := Option.some.inj hop
      intro x hx
      obtain rfl := Option.some.inj (hr.symm.trans hx)
      exact hne
    | _ => trivial
  · intro hcondition
    have hleaves : op.leavesItems = true := by
      cases op <;> first | rfl | exact nomatch hop
    obtain ⟨hitems, hlog⟩ := Op.items_of_leavesItems hleaves h
    refine ⟨fun x hx => ?_, hitems, hlog⟩
    obtain rfl := Option.some.inj (hr.symm.trans hx)
    exact hcarried.not_assigned hr hopen fun hassigned => hspares hassigned hcondition

/-! ### Runs -/

/-- **Decisions on the queue strand no device** exactly when no assigned request is cancelled, in every state
that a run reaches. -/
theorem strandsNothing_of_run (h : db.Settled) (hequipped : db.Equipped) (run : Run Step TicketsTied db db') :
    ∀ ctx op requestId db'', Op.queueRequest op = some requestId → op.run.Runs ctx db' () db'' →
      (StrandsNothing requestId db' db'' ↔ op.SparesAssigned db') := by
  obtain ⟨hcarried, hequipped'⟩ := inv_of_run (fun hok => hok)
    (fun _ _ hcommits hequipped => hequipped.step hcommits) h run hequipped
  intro ctx op requestId db'' hop hruns
  exact strandsNothing_iff hcarried hequipped' hop hruns

/-- Request 2 gives its laptop back, and request 1 is rejected. -/
theorem strandsNothing_of_run_reject :
    let db := Sample.after [Sample.call (.completeReturn 2 .available 9)]
    StrandsNothing 1 db ((Sample.call (.reject 1 "no budget" none 9)).exec db) ↔
      (Op.reject 1 "no budget" none 9).SparesAssigned db :=
  strandsNothing_of_run (by decide : Sample.store.Settled) (by decide)
    (.step .refl (Sample.call (.completeReturn 2 .available 9)) trivial rfl)
    Sample.ctx (.reject 1 "no budget" none 9) 1 _ rfl rfl

/-- The assigned request 2 is cancelled with its laptop. -/
theorem cancel_not_strandsNothing :
    Sample.store.Settled ∧ Sample.store.Equipped ∧
      (Op.cancel 2 "left" 9).run.Runs Sample.ctx Sample.store () (Sample.after [Sample.call (.cancel 2 "left" 9)]) ∧
      ¬ StrandsNothing 2 Sample.store (Sample.after [Sample.call (.cancel 2 "left" 9)]) := by
  refine ⟨by decide, by decide, rfl, fun h => ?_⟩
  have hdevice := h.noDevice _ rfl
  exact absurd hdevice (Option.some_ne_none _)

end AssetPilot
