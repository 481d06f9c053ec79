import AssetPilot.Effects.Inversion
import AssetPilot.Invariants.Store

/-!
# What a status says

A request, a ticket or an extension that has come to a decision carries the columns that say who took it and when.
`Db.Documented` is kept by every run, whatever the employees' side files.
-/

namespace AssetPilot

open Relational System

variable {ctx : Ctx} {db db' : Db} {e : Event}

/-- IT says who rejected and why, the manager that it was the manager. -/
def Request.RejectionDocumented (r : Request) : Prop :=
  r.rejectedBy = some .itAdmin ∧ r.rejectedReason ≠ none ∧ r.itDecidedBy ≠ none ∧ r.itDecidedAt ≠ none ∨
    r.rejectedBy = some .manager ∧ r.mgrApprovalStatus = .rejected ∧ r.managerDecidedAt ≠ none

/-- The columns that go with the status of a request. -/
structure Request.Documented (r : Request) : Prop where
  assigned : r.status = .assigned →
    r.assignedItemId ≠ none ∧ r.assignedFrom ≠ none ∧ r.assignedTo ≠ none ∧ r.itDecidedBy ≠ none ∧
      r.itDecidedAt ≠ none
  rejected : r.status = .rejected → r.RejectionDocumented
  cancelled : r.status = .cancelled →
    r.rejectedBy = some .itAdminCancel ∧ r.rejectedReason ≠ none ∧ r.cancelledBy ≠ none ∧ r.cancelledAt ≠ none
  completed : r.status = .completed → r.completedBy ≠ none ∧ r.completedAt ≠ none

/-- A ticket is closed by somebody, with a resolution, or by the system. -/
def SupportRequest.Documented (t : SupportRequest) : Prop :=
  t.status = .resolved →
    t.resolvedAt ≠ none ∧ (t.autoClosed = true ∨ t.resolution ≠ none ∧ t.resolvedBy ≠ none)

/-- An extension is approved by IT, and not against the manager; it is rejected by one of the two. -/
structure ExtensionRequest.Documented (x : ExtensionRequest) : Prop where
  approved : x.status = .approved → x.itDecidedBy ≠ none ∧ x.itDecidedAt ≠ none ∧
    x.mgrApprovalStatus ∈ ExtensionService._MGR_APPROVAL_STATUSES_ALLOWING_IT_APPROVAL
  rejected : x.status = .rejected → x.itDecidedBy ≠ none ∧ x.itDecidedAt ≠ none ∨
    x.mgrApprovalStatus = .rejected ∧ x.managerDecidedAt ≠ none

structure Db.Documented (db : Db) : Prop where
  requests : ∀ r ∈ db.requests, r.Documented
  supportRequests : ∀ t ∈ db.supportRequests, t.Documented
  extensionRequests : ∀ x ∈ db.extensionRequests, x.Documented

/-! ### One event -/

theorem Request.Documented.of_queue {r : Request} (s : RequestStatus) (hs : r.status = s)
    (h : s ∈ _FILED_STATUSES) : r.Documented := by
  have hstatus : ∀ s ∈ _FILED_STATUSES, s ≠ .assigned ∧ s ≠ .rejected ∧ s ≠ .cancelled ∧ s ≠ .completed := by
    decide
  obtain ⟨h₁, h₂, h₃, h₄⟩ := hstatus _ h
  subst hs
  exact ⟨fun hs => absurd hs h₁, fun hs => absurd hs h₂, fun hs => absurd hs h₃, fun hs => absurd hs h₄⟩

theorem Event.Rewrites.documented {r r' : Request} {u : Datetime} (h : e.Rewrites db r r') (hold : r.Documented) :
    { r' with updatedAt := u }.Documented := by
  cases h with
  | service h =>
    cases h with
    | updateBookingRange hstatus =>
      exact ⟨fun hs => ⟨(hold.assigned hs).1, Option.some_ne_none _, Option.some_ne_none _, (hold.assigned hs).2.2.2⟩,
        hold.rejected, hold.cancelled, hold.completed⟩
    | assign => exact ⟨by simp [AssignmentService.assignedRequest], nofun, nofun, nofun⟩
    | reject =>
      exact ⟨nofun, fun _ => .inl (by simp [RequestService.rejectedRequest]), nofun, nofun⟩
    | cancel => exact ⟨nofun, nofun, by simp [RequestService.cancelledRequest], nofun⟩
    | escalateToManager => exact .of_queue .pendingMgrApproval rfl (by decide)
    | completeReturn | markedLost => exact ⟨nofun, nofun, nofun, by simp [ShippingService.completedRequest]⟩
    | ship | confirmDelivery => exact ⟨hold.assigned, hold.rejected, hold.cancelled, hold.completed⟩
    | swapped =>
      exact ⟨fun hs => ⟨Option.some_ne_none _, (hold.assigned hs).2⟩, hold.rejected, hold.cancelled, hold.completed⟩
    | approveExtension =>
      refine ⟨fun hs => ?_, hold.rejected, hold.cancelled, hold.completed⟩
      obtain ⟨hdevice, hfrom, -, hdecided⟩ := hold.assigned hs
      exact ⟨hdevice, hfrom, Option.some_ne_none _, hdecided⟩
  | portal h =>
    cases h with
    | @submitRequest r status hstatus hqueue =>
      exact .of_queue status rfl (by rcases hqueue with rfl | rfl <;> decide)
    | @decideRequest r approved note now hstatus =>
      cases approved with
      | true => exact .of_queue .pendingItApproval rfl (by decide)
      | false => exact ⟨nofun, fun _ => .inr ⟨rfl, rfl, Option.some_ne_none _⟩, nofun, nofun⟩
    | initiateReturn => exact ⟨hold.assigned, hold.rejected, hold.cancelled, hold.completed⟩

theorem Event.Creates.documented {r : Request} {u : Datetime} (h : e.Creates db r) :
    { r with createdAt := u, updatedAt := u }.Documented := by
  cases h with
  | directAssign => exact ⟨by simp [AssignmentService.directRequest], nofun, nofun, nofun⟩
  | fileRequest hfiled => exact .of_queue _ rfl hfiled.2

theorem Event.TicketsStep.documented (h : e.TicketsStep db db') (hold : ∀ t ∈ db.supportRequests, t.Documented) :
    ∀ t ∈ db'.supportRequests, t.Documented := by
  intro x hx
  cases h with
  | same hsame => exact hold x (hsame ▸ hx)
  | start he ht hopen hset =>
    rw [hset] at hx
    rcases Table.mem_set.mp hx with ⟨rfl, -⟩ | ⟨hx, -⟩
    · exact nofun
    · exact hold x hx
  | resolve he ht hopen hset =>
    rw [hset] at hx
    rcases Table.mem_set.mp hx with ⟨rfl, -⟩ | ⟨hx, -⟩
    · exact fun _ => ⟨Option.some_ne_none _, .inr ⟨Option.some_ne_none _, Option.some_ne_none _⟩⟩
    · exact hold x hx
  | @autoClose _ _ _ _ _ ts he hts hnodup hothers hclosed =>
    have hx' : db'.supportRequests.get? x.id = some x := Table.mem_iff_get?.mp hx
    by_cases hk : ∃ t ∈ ts, t.id = x.id
    · obtain ⟨t, ht, hid⟩ := hk
      obtain ⟨now, u, hstored⟩ := hclosed t ht
      obtain rfl := Option.some.inj (hstored.symm.trans ((congrArg _ hid).trans hx'))
      exact fun _ => ⟨Option.some_ne_none _, .inl rfl⟩
    · refine hold x (Table.mem_iff_get?.mpr ?_)
      exact (hothers x.id fun t ht hid => hk ⟨t, ht, hid⟩).symm.trans hx'
  | @file _ t u he hfresh hopen hinsert =>
    rw [hinsert] at hx
    rcases (Table.mem_insert (t := db.supportRequests)
      (show db.supportRequests.get? { t with createdAt := u, updatedAt := u, filedAt := u }.id = none from
        hfresh)).mp hx with hx | rfl
    · exact hold x hx
    · exact fun hs => absurd (hopen.symm.trans hs) (by decide)

theorem Op.Reviews.documented {op : Op} {x x' : ExtensionRequest} {u : Datetime} (h : op.Reviews ctx x x') :
    { x' with updatedAt := u }.Documented := by
  cases h with
  | approve hpending hmgr => exact ⟨fun _ => ⟨Option.some_ne_none _, Option.some_ne_none _, hmgr⟩, nofun⟩
  | reject => exact ⟨nofun, fun _ => .inl ⟨Option.some_ne_none _, Option.some_ne_none _⟩⟩

theorem ExtensionRequest.Documented.managed {x : ExtensionRequest} {approved : Bool} {note : Option String}
    {now u : Datetime} (h : x.Documented) (hmgr : x.mgrApprovalStatus = .pending) :
    { x.managed approved note now with updatedAt := u }.Documented := by
  cases approved with
  | true =>
    refine ⟨fun hs => ?_, fun hs => .inl ?_⟩
    · obtain ⟨hby, hat, -⟩ := h.approved hs
      exact ⟨hby, hat, List.mem_cons_of_mem _ List.mem_cons_self⟩
    · rcases h.rejected hs with hdecided | ⟨hrejected, -⟩
      · exact hdecided
      · exact absurd (hmgr.symm.trans hrejected) (by decide)
  | false => exact ⟨nofun, fun _ => .inr ⟨rfl, Option.some_ne_none _⟩⟩

theorem Event.Effects.documented (h : e.Effects db db') (hold : db.Documented) : db'.Documented where
  requests := h.requests.forall_mem (fun _ _ _ _ hw => hw.documented) (fun _ _ hc => hc.documented) hold.requests
  supportRequests := h.tickets.documented hold.supportRequests
  extensionRequests := by
    refine h.extensions.forall_mem (fun _ _ _ _ _ hw _ => hw.documented)
      (fun _ _ _ _ _ hmgr hx => hx.managed hmgr) (fun x u hpending => ?_) hold.extensionRequests
    exact ⟨fun hs => absurd (hpending.symm.trans hs) (by decide), fun hs => absurd (hpending.symm.trans hs) (by decide)⟩

/-! ### Runs -/

theorem Db.Documented.of_run {ok : Db → Event → Prop} (h : db.Documented) (run : Run Step ok db db') :
    db'.Documented := by
  refine run.inv (P := Db.Documented) (fun s e s' hs _ hstep => ?_) h
  rcases hstep.cases with rfl | hcommits
  · exact hs
  · exact hcommits.effects.documented hs

/-- **Every status is documented**: in every reachable state, a row that has come to a decision says who took it and
when. -/
theorem documented_of_run {ok : Db → Event → Prop} (h : db.Documented) (run : Run Step ok db db') :
    db'.Documented := h.of_run run

namespace Sample

/-- The small store, with what IT wrote when it assigned laptop 2. -/
def decided : Db :=
  { store with
    requests := ⟨[request 1 1 .pendingItApproval none,
      { request 2 2 .assigned (some 2) with itDecidedBy := some 9, itDecidedAt := some 0 }], by decide⟩ }

theorem decided_documented : decided.Documented := by
  refine ⟨fun r hr => ?_, fun t ht => ?_, fun x hx => absurd hx List.not_mem_nil⟩
  · rcases List.mem_cons.mp hr with rfl | hr
    · exact .of_queue .pendingItApproval rfl (by decide)
    · obtain rfl := List.mem_singleton.mp hr
      exact ⟨fun _ => by decide, nofun, nofun, nofun⟩
  · obtain rfl := List.mem_singleton.mp ht
    exact nofun

end Sample

/-- Request 1 is rejected, and laptop 2 returned with its ticket. -/
theorem documented_of_run_return : ((Sample.call (.completeReturn 2 .available 9)).exec
    ((Sample.call (.reject 1 "No laptop is free." none 9)).exec Sample.decided)).Documented := by
  have run : Run Step (fun _ _ => True) Sample.decided _ :=
    .step (.step .refl (Sample.call (.reject 1 "No laptop is free." none 9)) trivial rfl)
      (Sample.call (.completeReturn 2 .available 9)) trivial rfl
  exact documented_of_run Sample.decided_documented run

end AssetPilot
