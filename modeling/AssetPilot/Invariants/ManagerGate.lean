import AssetPilot.Invariants.Store
import AssetPilot.Effects.Inversion

/-!
# The manager gate

`assign` looks at the status of a request and at none of the three approval fields. That no request gets a
device without the approval it needs rests on a law that ties the two: what waits for IT, is assigned or
completed, or has a device, has been cleared by the manager.
-/

namespace AssetPilot

open Relational Custody System Txn

variable {ctx : Ctx} {db db' : Db} {e : Event}

/-- No manager has to approve the request, or one did. -/
def Request.Cleared (r : Request) : Prop := r.requiresMgrApproval = false ∨ r.mgrApprovalStatus = .approved

instance (r : Request) : Decidable r.Cleared := inferInstanceAs (Decidable (_ ∨ _))

/-- The statuses behind the gate. -/
def _CLEARED_STATUSES : List RequestStatus := [.pendingItApproval, .assigned, .completed]

/-- A request behind the gate has been cleared. -/
def Request.Gated (r : Request) : Prop :=
  r.status ∈ _CLEARED_STATUSES ∨ r.assignedItemId ≠ none → r.Cleared

instance (r : Request) : Decidable r.Gated := inferInstanceAs (Decidable (_ → _))

/-- An approved extension has what it needs from the manager. -/
def ExtensionRequest.Gated (x : ExtensionRequest) : Prop :=
  x.status = .approved → x.mgrApprovalStatus ∈ ExtensionService._MGR_APPROVAL_STATUSES_ALLOWING_IT_APPROVAL

instance (x : ExtensionRequest) : Decidable x.Gated := inferInstanceAs (Decidable (_ → _))

/-- The manager gate is closed behind every request and every extension. -/
structure Db.Gated (db : Db) : Prop where
  requests : ∀ r ∈ db.requests.rows, r.Gated
  extensions : ∀ x ∈ db.extensionRequests.rows, x.Gated

instance (db : Db) : Decidable db.Gated :=
  decidable_of_iff ((∀ r ∈ db.requests.rows, r.Gated) ∧ ∀ x ∈ db.extensionRequests.rows, x.Gated)
    ⟨fun ⟨h₁, h₂⟩ => ⟨h₁, h₂⟩, fun h => ⟨h.requests, h.extensions⟩⟩

/-- The assumptions on the employees' side: tickets are tied to requests that have a device, and a request
enters the queue of IT, other than by a manager's decision, only when it is cleared. -/
def FiledThroughGate (db : Db) (e : Event) : Prop :=
  TicketsTied db e ∧
    match e with
    | .portal _ (.fileRequest request) => request.status = .pendingItApproval → request.Cleared
    | .portal _ (.submitRequest requestId status) => status = .pendingItApproval →
      ∀ r ∈ db.requests.get? requestId, r.Cleared
    | _ => True

/-! ### One event -/

theorem Request.Gated.of_same {r r' : Request} (h : r.Gated)
    (hfields : r'.requiresMgrApproval = r.requiresMgrApproval ∧ r'.mgrApprovalStatus = r.mgrApprovalStatus)
    (hbehind : r'.status ∈ _CLEARED_STATUSES ∨ r'.assignedItemId ≠ none →
      r.status ∈ _CLEARED_STATUSES ∨ r.assignedItemId ≠ none) : r'.Gated := by
  intro hr'
  rw [Cleared, hfields.1, hfields.2]
  exact h (hbehind hr')

theorem Request.Gated.of_before {r : Request} (hstatus : decide (r.status ∈ _CLEARED_STATUSES) = false)
    (hdevice : r.assignedItemId = none) : r.Gated := by
  intro hr
  rcases hr with hmem | hsome
  · exact absurd hmem (of_decide_eq_false hstatus)
  · exact absurd hdevice hsome

/-- **One write of a request** keeps the gate closed. -/
theorem FiledThroughGate.rewrites {r r' : Request} {u : Datetime} (hok : FiledThroughGate db e)
    (hcarried : Carried db.custody) (hr : db.requests.get? r.id = some r) (h : e.Rewrites db r r')
    (hgate : r.Gated) : { r' with updatedAt := u }.Gated := by
  cases h with
  | service h =>
    cases h with
    | updateBookingRange | ship | confirmDelivery | approveExtension => exact hgate
    | assign hstatus =>
      refine hgate.of_same ⟨rfl, rfl⟩ fun _ => .inl ?_
      rw [hstatus]
      decide
    | reject | cancel =>
      refine hgate.of_same ⟨rfl, rfl⟩ fun hbehind => .inr (hbehind.resolve_left ?_)
      exact of_decide_eq_false rfl
    | escalateToManager hstatus =>
      -- a request that waits has no device
      have hdevice : r.assignedItemId = none := by
        apply hcarried.not_assigned hr <;> rw [hstatus] <;> decide
      exact .of_before rfl hdevice
    | completeReturn hdevice =>
      exact hgate.of_same ⟨rfl, rfl⟩ fun _ => .inr (hdevice ▸ Option.some_ne_none _)
    | swapped hticket hopen htied =>
      exact hgate.of_same ⟨rfl, rfl⟩ fun _ => .inr (hcarried.tied_device hticket htied hr)
    | markedLost hticket hopen htied =>
      exact hgate.of_same ⟨rfl, rfl⟩ fun _ => .inr (hcarried.tied_device hticket htied hr)
  | portal h =>
    cases h with
    | submitRequest hstatus hqueue =>
      rcases hqueue with rfl | rfl
      · refine hgate.of_same ⟨rfl, rfl⟩ fun hbehind => .inr (hbehind.resolve_left ?_)
        exact of_decide_eq_false rfl
      · exact fun _ => hok.2 rfl r hr
    | @decideRequest _ approved note now hstatus =>
      have hdevice : r.assignedItemId = none := by
        apply hcarried.not_assigned hr <;> rw [hstatus] <;> decide
      cases approved with
      | true => exact fun _ => .inr rfl
      | false => exact .of_before rfl hdevice
    | initiateReturn => exact hgate

theorem FiledThroughGate.creates {r : Request} {u : Datetime} (hok : FiledThroughGate db e)
    (h : e.Creates db r) : { r with createdAt := u, updatedAt := u }.Gated := by
  cases h with
  | directAssign => exact fun _ => .inl rfl
  | fileRequest hfiled =>
    obtain ⟨hdevice, hstatus⟩ := hfiled
    rintro (hmem | hsome)
    · refine hok.2 ?_
      -- the only status that is filed and behind the gate
      have key : ∀ s ∈ _FILED_STATUSES, s ∈ _CLEARED_STATUSES → s = .pendingItApproval := by decide
      exact key r.status hstatus hmem
    · exact absurd hdevice hsome

theorem Db.Gated.step (hcarried : Carried db.custody) (hok : FiledThroughGate db e)
    (h : e.Commits db db') (hgate : db.Gated) : db'.Gated where
  requests := h.effects.requests.forall_mem (fun _ _ _ hr hw hr' => hok.rewrites hcarried hr hw hr')
    (fun _ _ hc => hok.creates hc) hgate.requests
  extensions := by
    refine h.effects.extensions.forall_mem ?_ ?_ ?_ hgate.extensions
    · rintro ctx op x x' u (⟨-, hmgr⟩ | -) -
      · exact fun _ => hmgr
      · exact fun happroved => absurd happroved (of_decide_eq_false rfl)
    · intro x approved note now u hmgr hx
      cases approved with
      | true => exact fun _ => List.mem_cons_of_mem _ (List.mem_singleton_self _)
      | false => exact fun happroved => absurd happroved (of_decide_eq_false rfl)
    · intro x u hpending happroved
      exact absurd (hpending.symm.trans happroved) (by decide)

/-! ### Late escalation -/

/-- An escalated request keeps waiting for its manager's approval: it is never escalated again. -/
theorem requires_of_commits {q : UUID} (h : e.Commits db db')
    (hrequires : ∃ r ∈ db.requests.get? q, r.requiresMgrApproval = true) :
    ∃ r ∈ db'.requests.get? q, r.requiresMgrApproval = true := by
  obtain ⟨r, hr, hrequires⟩ := hrequires
  rcases h.effects.requests.stays hr with hsame | ⟨r', u, hw, hr'⟩
  · exact ⟨r, hsame, hrequires⟩
  · refine ⟨_, hr', ?_⟩
    cases hw with
    | service hw => cases hw <;> first | exact hrequires | rfl
    | portal hw => cases hw <;> exact hrequires

/-- Escalation takes an uncleared request without a device back to its manager, and only once. -/
structure EscalatesOnce (requestId : UUID) (db db' : Db) : Prop where
  before : ∃ r ∈ db.requests.get? requestId, r.status = .pendingItApproval ∧
    r.requiresMgrApproval = false ∧ r.assignedItemId = none
  after : ∃ r ∈ db'.requests.get? requestId, r.status = .pendingMgrApproval ∧ ¬ r.Cleared
  once : ∀ {ok : Db → Event → Prop} {db''}, Run Step ok db' db'' → ∀ ctx managerId row db₃,
    ¬ (RequestService.escalateToManager requestId managerId).Runs ctx db'' row db₃

theorem RequestService.escalateToManager_once {requestId : UUID} {managerId : Option UUID} {row : Request}
    (hcarried : Carried db.custody)
    (h : (escalateToManager requestId managerId).Runs ctx db row db') :
    EscalatesOnce requestId db db' := by
  obtain ⟨r, hr, ⟨hstatus, hrequires⟩, -, hrow, rfl⟩ := runs_escalateToManager.mp h
  obtain rfl : r.id = requestId := Table.get?_key hr
  have hid : row.id = r.id := hrow ▸ rfl
  have hafter : (db.setRequest row).requests.get? r.id = some row := Table.get?_set_self hr hid
  have hrow' : row.requiresMgrApproval = true := hrow ▸ rfl
  refine ⟨⟨r, hr, hstatus, hrequires, ?_⟩, ⟨row, hafter, hrow ▸ rfl, ?_⟩, ?_⟩
  · apply hcarried.not_assigned hr <;> rw [hstatus] <;> decide
  · rintro (hfalse | happroved)
    · exact absurd (hrow'.symm.trans hfalse) (by decide)
    · exact absurd ((hrow ▸ rfl : row.mgrApprovalStatus = .pending).symm.trans happroved) (by decide)
  · intro ok db'' run ctx managerId row' db₃ hruns
    have hlater : ∃ x ∈ db''.requests.get? r.id, x.requiresMgrApproval = true := by
      refine run.inv (P := fun s => ∃ x ∈ s.requests.get? r.id, x.requiresMgrApproval = true) ?_
        ⟨row, hafter, hrow'⟩
      intro s e s' hs _ hstep
      rcases hstep.cases with rfl | hcommits
      · exact hs
      · exact requires_of_commits hcommits hs
    obtain ⟨x, hx, hx'⟩ := hlater
    obtain ⟨y, hy, ⟨-, hy'⟩, -⟩ := runs_escalateToManager.mp hruns
    obtain rfl := Option.some.inj (hx.symm.trans hy)
    exact absurd (hx'.symm.trans hy') (by decide)

/-! ### Runs -/

/-- **The manager gate is never bypassed**, in every state of a run from a settled store. -/
theorem gated_of_run (h : db.Settled) (hgate : db.Gated) (run : Run Step FiledThroughGate db db') :
    db'.Gated ∧ ∀ ctx requestId managerId row db'',
      (RequestService.escalateToManager requestId managerId).Runs ctx db' row db'' →
        EscalatesOnce requestId db' db'' := by
  obtain ⟨hcarried, hgate⟩ := inv_of_run (fun hok => hok.1)
    (fun hcarried hok hcommits hgate => hgate.step hcarried hok hcommits) h run hgate
  exact ⟨hgate, fun _ _ _ _ _ hruns => RequestService.escalateToManager_once hcarried hruns⟩

/-- A request that its manager has to approve. -/
def Sample.uncleared : Request :=
  { request 3 1 .pendingMgrApproval none with requiresMgrApproval := true, mgrApprovalStatus := .pending }

def Sample.clearance : List Event :=
  [.portal Sample.ctx (.fileRequest uncleared), .portal Sample.ctx (.decideRequest 3 true none 5),
    call (.assign 3 1 0 10 false 9)]

/-- The manager approves the request, it is assigned, and request 1 is escalated. -/
theorem gated_of_run_clearance :
    (Sample.after Sample.clearance).Gated ∧
      EscalatesOnce 1 (Sample.after Sample.clearance)
        ((Sample.call (.escalateToManager 1 none)).exec (Sample.after Sample.clearance)) := by
  have run : Run Step FiledThroughGate Sample.store (Sample.after Sample.clearance) :=
    .step (.step (.step .refl (.portal Sample.ctx (.fileRequest Sample.uncleared))
      ⟨trivial, fun h => absurd h (by decide)⟩ rfl)
      (.portal Sample.ctx (.decideRequest 3 true none 5)) ⟨trivial, trivial⟩ rfl)
      (Sample.call (.assign 3 1 0 10 false 9)) ⟨trivial, trivial⟩ rfl
  have hgated := gated_of_run (by decide : Sample.store.Settled) (by decide) run
  exact ⟨hgated.1, hgated.2 Sample.ctx 1 none _ _ rfl⟩

/-- A store in which a ticket is tied to a request that waits for its manager. -/
def Sample.stray : Db :=
  { store with
    requests := ⟨[request 1 1 .pendingItApproval none, request 2 2 .assigned (some 2), uncleared], by decide⟩
    supportRequests := ⟨[ticket 1 2 1 3 .lost], by decide⟩ }

/-- The gate is closed there, and resolving the ticket completes the request without its manager. -/
theorem markedLost_not_gated :
    Sample.stray.Gated ∧ (Op.resolve 1 .markedLost none none none 9).Admitted ∧
      ¬ ((Sample.call (.resolve 1 .markedLost none none none 9)).exec Sample.stray).Gated := by
  decide

end AssetPilot
