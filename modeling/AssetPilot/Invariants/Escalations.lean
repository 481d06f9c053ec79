import AssetPilot.Invariants.Coherence

/-!
# Escalated requests have somebody who can decide them

`escalate_to_manager` takes the manager from the call, or from the profile of the requester, and asks neither
for a user who is active nor for one who is a manager. The record of the escalations of a run keeps each
request as it was parked, beside the store in which that happened.
-/

namespace AssetPilot

open Relational System Txn

variable {ctx : Ctx} {db db' : Db} {e : Event} {requestId : UUID} {managerId : Option UUID}

/-- One escalation: the store before it, and the request as it leaves it. -/
structure Escalation where
  before : Db
  request : Request

/-- The escalation that the event makes, if it makes one. -/
def Event.escalations (db : Db) : Event → List Escalation
  | .service ctx (.escalateToManager requestId managerId) =>
    match RequestService.escalateToManager requestId managerId ctx db with
    | .ok (row, _) => [⟨db, row⟩]
    | .error _ => []
  | _ => []

/-- The user can decide on requests. -/
def User.ActiveManager (u : User) : Prop := u.isActive = true ∧ u.role = .manager

instance (u : User) : Decidable u.ActiveManager := inferInstanceAs (Decidable (_ ∧ _))

/-- The request is parked with an existing user who can decide on it. -/
def Escalation.HasManager (x : Escalation) : Prop :=
  x.request.status = .pendingMgrApproval ∧
    ∃ m ∈ x.request.managerId, ∃ u ∈ x.before.users.get? m, u.ActiveManager

instance (x : Escalation) : Decidable x.HasManager :=
  inferInstanceAs (Decidable (_ ∧ ∃ m ∈ _, ∃ u ∈ _, _))

/-- The user with this key, if there is one, can decide on requests. -/
def Db.Manages (db : Db) (m : UUID) : Prop := ∀ u ∈ db.users.get? m, u.ActiveManager

/-- A manager named by the call is an active manager; where the call names none, the requester's profile names
one, who is. -/
def Op.NamesManager (db : Db) : Op → Prop
  | .escalateToManager _ (some m) => db.Manages m
  | .escalateToManager requestId none => ∀ r ∈ db.requests.get? requestId,
      ∀ u ∈ db.users.get? r.requesterId, ∃ m ∈ u.managerId, db.Manages m
  | _ => True

def Event.NamesManager (db : Db) : Event → Prop
  | .service _ op => op.NamesManager db
  | .portal _ _ => True

/-! ### One escalation -/

theorem Event.mem_escalations {x : Escalation} (h : x ∈ e.escalations db) :
    ∃ ctx requestId managerId db', e = .service ctx (.escalateToManager requestId managerId) ∧
      (RequestService.escalateToManager requestId managerId).Runs ctx db x.request db' ∧ x.before = db := by
  unfold Event.escalations at h
  split at h
  · split at h
    · next ctx requestId managerId _ row db' hruns =>
      obtain rfl := List.mem_singleton.mp h
      exact ⟨ctx, requestId, managerId, db', rfl, hruns, rfl⟩
    · exact absurd h List.not_mem_nil
  · exact absurd h List.not_mem_nil

/-- **An escalation parks its request with an active manager** exactly when it was given one. That the users
exist is what the foreign keys of the written row say. -/
theorem RequestService.escalateToManager_hasManager_iff {row : Request}
    (h : (escalateToManager requestId managerId).Runs ctx db row db') :
    Escalation.HasManager ⟨db, row⟩ ↔ (Op.escalateToManager requestId managerId).NamesManager db := by
  obtain ⟨r, hr, -, hrow, heq, -⟩ := runs_escalateToManager.mp h
  obtain ⟨-, hrequester, -, -, hmanager, -⟩ := Request.constraints_iff.mp hrow
  have hstatus : row.status = .pendingMgrApproval := heq ▸ rfl
  have hmanagerId : row.managerId = resolvedManager db r managerId := heq ▸ rfl
  have hrequesterId : row.requesterId = r.requesterId := heq ▸ rfl
  refine (and_iff_right hstatus).trans ?_
  -- a manager that is written exists
  have hexists : (∃ m ∈ row.managerId, ∃ u ∈ db.users.get? m, u.ActiveManager) ↔
      ∃ m ∈ row.managerId, db.Manages m := by
    refine exists_congr fun m => and_congr_right fun hm => ?_
    obtain ⟨u, hu⟩ := Option.ne_none_iff_exists'.mp (hmanager m hm)
    simp [Db.Manages, hu]
  rw [hexists, hmanagerId]
  cases managerId with
  | some m => simp [resolvedManager, Op.NamesManager]
  | none =>
    obtain ⟨u, hu⟩ := Option.ne_none_iff_exists'.mp (hrequester row.requesterId rfl)
    rw [hrequesterId] at hu
    simp [resolvedManager, Op.NamesManager, hr, hu]

/-! ### Runs -/

/-- **Every escalated request has somebody who can decide it**, in every run whose escalations are given an
active manager, and the next escalation parks one without exactly when it is given none. -/
theorem escalations_of_run {records : List Escalation}
    (run : Run (Recorded Step fun db e => e.escalations db) (fun s e => e.NamesManager s.1) (db, [])
      (db', records)) :
    (∀ x ∈ records, x.HasManager) ∧ ∀ ctx requestId managerId row db'',
      (RequestService.escalateToManager requestId managerId).Runs ctx db' row db'' →
        (Escalation.HasManager ⟨db', row⟩ ↔ (Op.escalateToManager requestId managerId).NamesManager db') := by
  constructor
  · refine run.forall_recorded (P := Escalation.HasManager) (fun s e hnames x hx => ?_)
      fun x hx => absurd hx List.not_mem_nil
    obtain ⟨ctx, requestId, managerId, db₁, rfl, hruns, hbefore⟩ := Event.mem_escalations hx
    have hmanager := (RequestService.escalateToManager_hasManager_iff hruns).mpr hnames
    rwa [← hbefore] at hmanager
  · intro ctx requestId managerId row db'' hruns
    exact RequestService.escalateToManager_hasManager_iff hruns

namespace Sample

/-- A manager joins, and is named for request 1. -/
def appointment : List Event :=
  [call (.createUser "Manager" "boss@example.com" .manager), call (.escalateToManager 1 (some 100))]

/-- The request as it is parked. -/
def parked : Request :=
  { request 1 1 .pendingMgrApproval none with
    requiresMgrApproval := true
    mgrApprovalStatus := .pending
    managerId := some 100
    updatedAt := 5 }

end Sample

theorem escalations_of_run_appointment :
    Escalation.HasManager ⟨Sample.after [Sample.call (.createUser "Manager" "boss@example.com" .manager)],
      Sample.parked⟩ := by
  have hnames : (Sample.call (.escalateToManager 1 (some 100))).NamesManager
      (Sample.after [Sample.call (.createUser "Manager" "boss@example.com" .manager)]) := by
    intro u hu
    obtain rfl := Option.some.inj hu
    exact ⟨rfl, rfl⟩
  have first : Run (Recorded Step fun db e => e.escalations db) (fun s e => e.NamesManager s.1) (Sample.store, [])
      (Sample.after [Sample.call (.createUser "Manager" "boss@example.com" .manager)], []) :=
    .step .refl (Sample.call (.createUser "Manager" "boss@example.com" .manager)) trivial ⟨rfl, rfl⟩
  have second : Run (Recorded Step fun db e => e.escalations db) (fun s e => e.NamesManager s.1) (Sample.store, [])
      (Sample.after Sample.appointment,
        [⟨Sample.after [Sample.call (.createUser "Manager" "boss@example.com" .manager)], Sample.parked⟩]) :=
    .step first (Sample.call (.escalateToManager 1 (some 100))) hnames ⟨rfl, rfl⟩
  exact (escalations_of_run second).1 _ (List.mem_singleton_self _)

/-- Request 1 is escalated to nobody, since its requester has no manager, and to an employee. -/
theorem escalateToManager_not_hasManager :
    (∃ row db', (RequestService.escalateToManager 1 none).Runs Sample.ctx Sample.store row db' ∧
      row.managerId = none ∧ ¬ Escalation.HasManager ⟨Sample.store, row⟩) ∧
    (∃ row db', (RequestService.escalateToManager 1 (some 2)).Runs Sample.ctx Sample.store row db' ∧
      ¬ Escalation.HasManager ⟨Sample.store, row⟩) := by
  refine ⟨⟨_, _, rfl, rfl, ?_⟩, ⟨_, _, rfl, ?_⟩⟩
  · intro ⟨_, m, hm, _⟩
    exact nomatch hm
  · intro ⟨_, m, hm, u, hu, hactive⟩
    obtain rfl := Option.some.inj hm
    obtain rfl := Option.some.inj hu
    exact absurd hactive.2 (by decide)

end AssetPilot
