import AssetPilot.Invariants.Documented
import AssetPilot.Invariants.History

/-!
# Nothing is decided for ever

Requests, tickets and extensions go through their statuses in one direction: whatever is called in whatever order,
the status of a request changes at most seven times, the status of a ticket twice, the status of an extension once.
The one way back, an escalation to the manager, is open once.
-/

namespace AssetPilot

open Relational System Table

variable {db db' : Db} {e : Event}

/-- How far a request has come. The queues are passed through once more after an escalation, which marks the
request. -/
def Request.progress (r : Request) : Nat :=
  match r.status with
  | .requested => 0
  | .pendingMgrApproval => if r.requiresMgrApproval then 3 else 1
  | .pendingItApproval => if r.requiresMgrApproval then 4 else 2
  | .assigned => 5
  | .rejected | .cancelled => 6
  | .completed => 7

def SupportRequest.progress (t : SupportRequest) : Nat :=
  match t.status with
  | .opened => 0
  | .inProgress => 1
  | .resolved => 2

def ExtensionRequest.progress (x : ExtensionRequest) : Nat := if x.status = .pending then 0 else 1

/-- A row that employees, managers and IT work on. -/
inductive Workflow
  | request (id : UUID)
  | ticket (id : UUID)
  | extension (id : UUID)

inductive Workflow.Status
  | request (s : RequestStatus)
  | ticket (s : SupportStatus)
  | extension (s : ExtensionStatus)
  deriving DecidableEq

/-- How often its status may change. -/
def Workflow.bound : Workflow → Nat
  | .request _ => 7
  | .ticket _ => 2
  | .extension _ => 1

def Db.status (db : Db) : Workflow → Option Workflow.Status
  | .request id => (db.requests.get? id).map fun r => .request r.status
  | .ticket id => (db.supportRequests.get? id).map fun t => .ticket t.status
  | .extension id => (db.extensionRequests.get? id).map fun x => .extension x.status

def Db.progress (db : Db) : Workflow → Nat
  | .request id => rankAt Request.progress db.requests id
  | .ticket id => rankAt SupportRequest.progress db.supportRequests id
  | .extension id => rankAt ExtensionRequest.progress db.extensionRequests id

/-- The change of the status that the event brings about, if there is one. -/
def Event.moved (e : Event) (w : Workflow) (db : Db) : List (Workflow.Status × Workflow.Status) :=
  changed (db.status w) ((e.exec db).status w)

/-! ### One event -/

abbrev Request.Advances : Request → Request → Prop :=
  Table.Advances (fun r => Workflow.Status.request r.status) Request.progress

abbrev SupportRequest.Advances : SupportRequest → SupportRequest → Prop :=
  Table.Advances (fun t => Workflow.Status.ticket t.status) SupportRequest.progress

abbrev ExtensionRequest.Advances : ExtensionRequest → ExtensionRequest → Prop :=
  Table.Advances (fun x => Workflow.Status.extension x.status) ExtensionRequest.progress

theorem Request.progress_le (r : Request) : r.progress ≤ 7 := by
  unfold Request.progress
  split
  case h_2 | h_3 => split <;> decide
  all_goals decide

theorem SupportRequest.progress_le (t : SupportRequest) : t.progress ≤ 2 := by
  unfold SupportRequest.progress
  split <;> decide

theorem ExtensionRequest.progress_le (x : ExtensionRequest) : x.progress ≤ 1 := by
  unfold ExtensionRequest.progress
  split <;> decide

theorem Db.progress_le (db : Db) (w : Workflow) : db.progress w ≤ w.bound := by
  have hrank {α : Type} {rank : α → Nat} {n : Nat} (h : ∀ r, rank r ≤ n) (o : Option α) :
      (o.map rank).getD 0 ≤ n := by
    cases o with
    | none => exact Nat.zero_le n
    | some r => exact h r
  cases w with
  | request id => exact hrank Request.progress_le _
  | ticket id => exact hrank SupportRequest.progress_le _
  | extension id => exact hrank ExtensionRequest.progress_le _

theorem Request.progress_lt {r : Request} (h : r.status ∉ _TERMINAL_STATUSES) : r.progress < 6 := by
  unfold Request.progress
  split
  case h_1 | h_4 => decide
  case h_2 | h_3 => split <;> decide
  all_goals exact absurd (by rw [‹r.status = _›]; decide) h

theorem Request.Advances.of_ended {r r' : Request} (h : r.status ∉ _TERMINAL_STATUSES)
    (h' : r'.status = .rejected ∨ r'.status = .cancelled) : r.Advances r' := by
  have hended : r'.progress = 6 := by rcases h' with h' | h' <;> rw [Request.progress, h']
  exact .of_lt (hended ▸ Request.progress_lt h)

theorem Request.Advances.of_completed {r r' : Request} (h : r'.status = .completed) : r.Advances r' := by
  have hlast : r'.progress = 7 := by rw [Request.progress, h]
  by_cases hs : r.status = .completed
  · exact .of_same (congrArg _ (hs.trans h.symm)) (hlast ▸ r.progress_le)
  · refine .of_lt (hlast ▸ ?_)
    unfold Request.progress
    split
    case h_2 | h_3 => split <;> decide
    case h_7 hcompleted => exact absurd hcompleted hs
    all_goals decide

/-- A request leaves its queue for a later place. An escalation goes back to the manager, and marks the request:
it is not repeated. -/
theorem Event.Rewrites.advances {r r' : Request} {u : Datetime} (h : e.Rewrites db r r') :
    r.Advances { r' with updatedAt := u } := by
  cases h with
  | service h =>
    cases h with
    | updateBookingRange | ship | confirmDelivery | swapped | approveExtension =>
      exact .of_same rfl (Nat.le_refl _)
    | completeReturn | markedLost => exact .of_completed rfl
    | assign hstatus =>
      refine .of_lt ?_
      simp only [Request.progress, AssignmentService.assignedRequest, hstatus]
      split <;> decide
    | reject hstatus => exact .of_ended (hstatus ▸ by decide) (.inl rfl)
    | cancel hopen => exact .of_ended hopen (.inr rfl)
    | escalateToManager hstatus hrequires =>
      exact .of_lt (by simp [Request.progress, RequestService.escalatedRequest, hstatus, hrequires])
  | portal h =>
    cases h with
    | submitRequest hstatus hqueue =>
      refine .of_lt ?_
      rcases hqueue with rfl | rfl <;> (simp only [Request.progress, hstatus]; split <;> decide)
    | @decideRequest r approved note now hstatus =>
      cases approved with
      | true =>
        refine .of_lt ?_
        simp only [Request.progress, hstatus, if_true]
        split <;> decide
      | false => exact .of_ended (hstatus ▸ by decide) (.inl rfl)
    | initiateReturn => exact .of_same rfl (Nat.le_refl _)

theorem Event.RequestsStep.advances (h : e.RequestsStep db db') :
    db.requests.Evolves Request.Advances db'.requests := by
  intro k r hr
  rcases h.stays hr with hsame | ⟨r', u, hwrites, hr'⟩
  · exact ⟨r, hsame, .of_same rfl (Nat.le_refl _)⟩
  · exact ⟨_, hr', hwrites.advances⟩

theorem SupportRequest.Kept.advances {t t' : SupportRequest} (h : t.Kept t') : t.Advances t' := by
  cases hs : t.status with
  | opened =>
    by_cases hs' : t'.status = .opened
    · exact .of_same (congrArg _ (hs.trans hs'.symm)) (by simp [SupportRequest.progress, hs, hs'])
    · refine .of_lt ?_
      simp only [SupportRequest.progress, hs]
      split
      · exact absurd ‹_› hs'
      all_goals decide
  | inProgress =>
    have hstarted : t'.status ≠ .opened := h.started (by rw [hs]; decide)
    by_cases hs' : t'.status = .inProgress
    · exact .of_same (congrArg _ (hs.trans hs'.symm)) (by simp [SupportRequest.progress, hs, hs'])
    · refine .of_lt ?_
      simp only [SupportRequest.progress, hs]
      split
      · exact absurd ‹_› hstarted
      · exact absurd ‹_› hs'
      · decide
  | resolved => exact h.resolved hs ▸ .of_same rfl (Nat.le_refl _)

/-- An extension that was decided keeps its status: IT decides what is pending, and the manager, who looks only at
the own decision, finds none open on what IT approved. -/
theorem Event.ExtensionsStep.advances (h : e.ExtensionsStep db db')
    (hold : ∀ x ∈ db.extensionRequests, x.Documented) :
    db.extensionRequests.Evolves ExtensionRequest.Advances db'.extensionRequests := by
  have hlast (x : ExtensionRequest) (hs : x.status ≠ .pending) : x.progress = 1 := if_neg hs
  cases h with
  | same hsame => exact hsame ▸ .refl _
  | @review _ op x x' u he hx hreview hset =>
    have hid : { x' with updatedAt := u }.id = x.id := by cases hreview <;> rfl
    refine hset ▸ .set (r := x) ((congrArg _ hid).trans hx) (.of_lt ?_)
    have hfirst : x.progress = 0 := if_pos hreview.pending
    have hdecided : x'.status ≠ .pending := by cases hreview <;> exact of_decide_eq_true rfl
    rw [hfirst]
    exact Nat.lt_of_lt_of_eq Nat.one_pos (hlast _ hdecided).symm
  | @manage _ x approved note now u he hx hmgr hset =>
    refine hset ▸ .set hx ?_
    cases approved with
    | true => exact .of_same rfl (Nat.le_refl _)
    | false =>
      have hrejected : { x.managed false note now with updatedAt := u }.progress = 1 := hlast _ (of_decide_eq_true rfl)
      cases hs : x.status with
      | pending =>
        have hfirst : x.progress = 0 := if_pos hs
        exact .of_lt (by rw [hfirst, hrejected]; exact Nat.one_pos)
      | approved =>
        obtain ⟨-, -, hallowed⟩ := (hold x (Table.get?_mem hx)).approved hs
        exact absurd (hmgr ▸ hallowed) (by decide)
      | rejected => exact .of_same (congrArg _ hs) (hrejected ▸ x.progress_le)
  | file he hfresh hpending hinsert => exact hinsert ▸ .insert hfresh

/-- **One event** pays for the change of a status with progress. -/
theorem Step.progress_le (hold : db.Documented) (h : Step db e db') (w : Workflow) :
    db.progress w + (e.moved w db).length ≤ db'.progress w := by
  have hdb' : e.exec db = db' := h
  rw [Event.moved, hdb']
  have hevolves : db.requests.Evolves Request.Advances db'.requests ∧
      db.supportRequests.Evolves SupportRequest.Advances db'.supportRequests ∧
        db.extensionRequests.Evolves ExtensionRequest.Advances db'.extensionRequests := by
    rcases h.cases with rfl | hcommits
    · exact ⟨.refl _, .refl _, .refl _⟩
    · refine ⟨hcommits.effects.requests.advances, fun k t ht => ?_,
        hcommits.effects.extensions.advances hold.extensionRequests⟩
      obtain ⟨t', ht', hkept⟩ := hcommits.effects.tickets.evolves k t ht
      exact ⟨t', ht', hkept.advances⟩
  obtain ⟨hrequests, htickets, hextensions⟩ := hevolves
  cases w with
  | request id => exact hrequests.rankAt_le id
  | ticket id => exact htickets.rankAt_le id
  | extension id => exact hextensions.rankAt_le id

/-! ### Runs -/

/-- **Every workflow comes to an end**: in any run, whatever is called in whatever order, the status of a row changes
at most as often as it has progress to make, so a request changes its status at most seven times, a ticket twice, and
an extension is decided at most once. -/
theorem statusChanges_of_run {ok : Db × List (Workflow.Status × Workflow.Status) → Event → Prop} (w : Workflow)
    {changes : List (Workflow.Status × Workflow.Status)} (h : db.Documented)
    (run : Run (Recorded Step fun db e => e.moved w db) ok (db, []) (db', changes)) :
    db.progress w + changes.length ≤ w.bound := by
  have hkept (s : Db) (e : Event) (s' : Db) (hs : s.Documented) (hstep : Step s e s') : s'.Documented :=
    hs.of_run (.step .refl e trivial hstep : Run Step (fun _ _ => True) s s')
  have hpaid : db.progress w + changes.length ≤ db'.progress w + 0 :=
    run.length_recorded_le Db.Documented (·.progress w) hkept (fun _ _ _ hs hstep => hstep.progress_le hs w) h
  exact hpaid.trans (db'.progress_le w)

namespace Sample

/-- Request 1 is escalated and approved, gets laptop 1, and is cancelled; the laptop comes back all the same. -/
def workedOff : List Event :=
  [call (.escalateToManager 1 (some 9)), .portal ctx (.decideRequest 1 true none 3), call (.assign 1 1 0 10 false 9),
    call (.cancel 1 "No longer needed." 9), call (.completeReturn 1 .available 9)]

/-- The store and what became of request 1, one event later. -/
def traced (s : Db × List (Workflow.Status × Workflow.Status)) (e : Event) :
    Db × List (Workflow.Status × Workflow.Status) :=
  (e.exec s.1, s.2 ++ e.moved (.request 1) s.1)

end Sample

theorem statusChanges_of_run_workedOff :
    Sample.decided.progress (.request 1) + (Sample.workedOff.foldl Sample.traced (Sample.decided, [])).2.length ≤
      (Workflow.request 1).bound := by
  have run : Run (Recorded Step fun db e => e.moved (.request 1) db) (fun _ _ => True) (Sample.decided, [])
      (Sample.workedOff.foldl Sample.traced (Sample.decided, [])) :=
    .foldl (fun _ _ => ⟨rfl, rfl⟩) (fun _ _ => trivial) Sample.workedOff
  exact statusChanges_of_run (.request 1) Sample.decided_documented run

/-- The five changes are all that request 1 has left. -/
example : Sample.decided.progress (.request 1) + (Sample.workedOff.foldl Sample.traced (Sample.decided, [])).2.length =
    (Workflow.request 1).bound := by decide

end AssetPilot
