import AssetPilot.Invariants.Store
import AssetPilot.Effects.Inversion

/-!
# Confirmed ranges

An extension keeps the end of the assignment as it was when it was filed, and `approve` writes
`extended_to` without looking at the end again. Ranges stay well formed, and extensions extend, in the runs
that approve an extension only while it reaches further than the assignment does.
-/

namespace AssetPilot

open Relational System Txn
open SQLAlchemyRepository (flushed)

variable {ctx : Ctx} {db db' : Db} {e : Event}

/-- An assigned request has a confirmed range, and it is not empty. -/
def Request.RangeFits (r : Request) : Prop :=
  r.status = .assigned → ∃ f ∈ r.assignedFrom, ∃ t ∈ r.assignedTo, f < t

theorem Request.rangeFits_of_ne {r : Request} (h : decide (r.status = .assigned) = false) : r.RangeFits :=
  fun hassigned => absurd hassigned (of_decide_eq_false h)

def Db.RangesFit (db : Db) : Prop := ∀ r ∈ db.requests.rows, r.RangeFits

instance (r : Request) : Decidable r.RangeFits := inferInstanceAs (Decidable (_ → _))
instance (db : Db) : Decidable db.RangesFit := inferInstanceAs (Decidable (∀ r ∈ _, _))

/-- The extension reaches further than the assignment of the request does. -/
def ExtensionRequest.Reaches (x : ExtensionRequest) (r : Request) : Prop :=
  ∃ t ∈ r.assignedTo, t < x.extendedTo

instance (x : ExtensionRequest) (r : Request) : Decidable (x.Reaches r) :=
  inferInstanceAs (Decidable (∃ t ∈ _, _))

/-- The end of the assignment is later in `db'` than in `db`. -/
def Extended (requestId : UUID) (db db' : Db) : Prop :=
  ∃ t ∈ (db.requests.get? requestId).bind Request.assignedTo,
    ∃ t' ∈ (db'.requests.get? requestId).bind Request.assignedTo, t < t'

instance (requestId : UUID) (db db' : Db) : Decidable (Extended requestId db db') :=
  inferInstanceAs (Decidable (∃ t ∈ _, _))

/-- The call passes its schema, and approves an extension only while it reaches further than the
assignment. -/
def Op.KeepsRanges (db : Db) (op : Op) : Prop :=
  op.Admitted ∧ ∀ extensionId note actorId, op = .approveExtension extensionId note actorId →
    ∀ x ∈ db.extensionRequests.get? extensionId, x.status = .pending →
      x.mgrApprovalStatus ∈ ExtensionService._MGR_APPROVAL_STATUSES_ALLOWING_IT_APPROVAL →
        ∀ r ∈ db.requests.get? x.originalRequestId, r.assignedItemId ≠ none → x.Reaches r

def Event.KeepsRanges (db : Db) : Event → Prop
  | .service _ op => op.KeepsRanges db
  | .portal _ _ => True

/-! ### One event -/

theorem Event.KeepsRanges.rewrites {r r' : Request} {u : Datetime} (hkeeps : e.KeepsRanges db)
    (hr : db.requests.get? r.id = some r) (h : e.Rewrites db r r') (hfits : r.RangeFits) :
    { r' with updatedAt := u }.RangeFits := by
  cases h with
  | service h =>
    obtain ⟨hadmitted, hreaches⟩ := hkeeps
    cases h with
    | updateBookingRange => exact fun _ => ⟨_, rfl, _, rfl, lt_of_not_ge hadmitted⟩
    | assign => exact fun _ => ⟨_, rfl, _, rfl, lt_of_not_ge hadmitted⟩
    | reject | cancel | escalateToManager | completeReturn | markedLost =>
      exact Request.rangeFits_of_ne rfl
    | ship | confirmDelivery | swapped => exact hfits
    | approveExtension hx hpending hmgr hparent hdevice =>
      intro hstatus
      obtain ⟨f, hf, t, ht, hlt⟩ := hfits hstatus
      obtain ⟨s, hs, hreach⟩ := hreaches _ _ _ rfl _ hx hpending hmgr r (hparent ▸ hr)
        (hdevice ▸ Option.some_ne_none _)
      obtain rfl := Option.some.inj (Option.mem_def.mp ht |>.symm.trans hs)
      exact ⟨f, hf, _, rfl, hlt.trans hreach⟩
  | portal h =>
    cases h with
    | submitRequest hstatus hqueue =>
      rcases hqueue with rfl | rfl <;> exact Request.rangeFits_of_ne rfl
    | @decideRequest _ approved => cases approved <;> exact Request.rangeFits_of_ne rfl
    | initiateReturn => exact hfits

theorem Event.KeepsRanges.creates {r : Request} {u : Datetime} (hkeeps : e.KeepsRanges db)
    (h : e.Creates db r) : { r with createdAt := u, updatedAt := u }.RangeFits := by
  cases h with
  | directAssign => exact fun _ => ⟨_, rfl, _, rfl, lt_of_not_ge hkeeps.1⟩
  | fileRequest hfiled =>
    refine fun hstatus => absurd hfiled.2 ?_
    rw [show r.status = .assigned from hstatus]
    decide

/-- **An approval extends the assignment exactly when the extension reaches further.** -/
theorem ExtensionService.approve_extended {extensionId actorId : UUID} {note : Option String}
    {row : ExtensionRequest} (h : (approve extensionId note actorId).Runs ctx db row db') :
    (Op.approveExtension extensionId note actorId).KeepsRanges db ↔
      Extended row.originalRequestId db db' := by
  obtain ⟨x, hx, hpending, hmgr, r, hr, r', hr', -, x', hx', -, d, hd, l, rfl, -, hrow, hdb⟩ :=
    runs_approve.mp h
  have hdevice : r.assignedItemId ≠ none := by
    rw [show r.assignedItemId = r'.assignedItemId from hr' ▸ rfl, hd]
    exact Option.some_ne_none d
  have hkey : r.id = x.originalRequestId := Table.get?_key hr
  have hparent : row.originalRequestId = r.id := by
    rw [hrow, hx']
    exact hkey.symm
  have hid : r'.id = r.id := hr' ▸ rfl
  have hr₁ : db.requests.get? r.id = some r := hkey.symm ▸ hr
  have hafter : db'.requests.get? r.id = some r' := by
    rw [hdb]
    exact Table.get?_set_self hr₁ hid
  have hto : r'.assignedTo = some x.extendedTo := hr' ▸ rfl
  have hiff : Extended row.originalRequestId db db' ↔ x.Reaches r := by
    rw [Extended, hparent, hafter, hr₁]
    simp [hto, ExtensionRequest.Reaches]
  rw [hiff]
  constructor
  · exact fun hkeeps => hkeeps.2 _ _ _ rfl x hx hpending hmgr r hr hdevice
  · intro hreaches
    refine ⟨trivial, fun _ _ _ hop y hy _ _ s hs _ => ?_⟩
    obtain ⟨rfl, rfl, rfl⟩ := Op.approveExtension.inj hop
    obtain rfl := Option.some.inj (hx.symm.trans hy)
    obtain rfl := Option.some.inj (hr.symm.trans hs)
    exact hreaches

/-! ### Runs -/

/-- **Confirmed ranges stay well formed, and extensions extend**, in every state of a run that approves
an extension only while it reaches further than the assignment. -/
theorem ranges_of_run (h : db.RangesFit) (run : Run Step (fun db e => e.KeepsRanges db) db db') :
    db'.RangesFit ∧ ∀ ctx extensionId note actorId row db'',
      (ExtensionService.approve extensionId note actorId).Runs ctx db' row db'' →
        ((Op.approveExtension extensionId note actorId).KeepsRanges db' ↔
          Extended row.originalRequestId db' db'') := by
  refine ⟨?_, fun _ _ _ _ _ _ hruns => ExtensionService.approve_extended hruns⟩
  refine run.inv (P := Db.RangesFit) (fun s e s' hs hkeeps hstep => ?_) h
  rcases hstep.cases with rfl | hcommits
  · exact hs
  · exact hcommits.effects.requests.forall_mem (fun r r' u hr hw hfits => hkeeps.rewrites hr hw hfits)
      (fun r u hc => hkeeps.creates hc) hs

/-- An extension of request 2, from 10 to 20. -/
def Sample.extension : ExtensionRequest where
  id := 1
  originalRequestId := 2
  requesterId := 2
  currentAssignedTo := 10
  extendedTo := 20

def Sample.fileExtension : Event := .portal Sample.ctx (.fileExtension extension)

/-- The extension is approved before anything else happens to the assignment. -/
theorem ranges_of_run_approve :
    (Sample.after [Sample.fileExtension, Sample.call (.approveExtension 1 none 9)]).RangesFit ∧
      Extended 2 (Sample.after [Sample.fileExtension])
        (Sample.after [Sample.fileExtension, Sample.call (.approveExtension 1 none 9)]) := by
  have hkeeps : (Op.approveExtension 1 none 9).KeepsRanges (Sample.after [Sample.fileExtension]) := by
    refine ⟨trivial, fun _ _ _ hop x hx _ _ r hr _ => ?_⟩
    obtain ⟨rfl, rfl, rfl⟩ := Op.approveExtension.inj hop
    obtain rfl := Option.some.inj hx
    obtain rfl := Option.some.inj hr
    decide
  have filed : Run Step (fun db e => e.KeepsRanges db) Sample.store (Sample.after [Sample.fileExtension]) :=
    .step .refl Sample.fileExtension trivial rfl
  exact ⟨(ranges_of_run (by decide) (.step filed (Sample.call (.approveExtension 1 none 9)) hkeeps rfl)).1,
    ((ranges_of_run (by decide) filed).2 Sample.ctx 1 none 9 _ _ rfl).mp hkeeps⟩

/-- The extension is filed as the portal files it: on an assigned request, with the end that it has. -/
def Db.FiledOn (db : Db) (x : ExtensionRequest) : Prop :=
  ∃ r ∈ db.requests.get? x.originalRequestId, r.status = .assigned ∧
    r.assignedTo = some x.currentAssignedTo ∧ x.currentAssignedTo < x.extendedTo

instance (db : Db) (x : ExtensionRequest) : Decidable (db.FiledOn x) :=
  inferInstanceAs (Decidable (∃ r ∈ _, _))

/-- The booking is moved before the extension is approved. Its end then goes back from 40 to 20, which is
before its start. -/
theorem approveExtension_not_extended :
    let moved := Sample.after [Sample.fileExtension, Sample.call (.updateBookingRange 2 30 40)]
    let approved := Sample.after [Sample.fileExtension, Sample.call (.updateBookingRange 2 30 40),
      Sample.call (.approveExtension 1 none 9)]
    Sample.store.RangesFit ∧ Sample.store.FiledOn Sample.extension ∧ (Op.updateBookingRange 2 30 40).Admitted ∧
      moved.RangesFit ∧ (Op.approveExtension 1 none 9).run.Runs Sample.ctx moved () approved ∧
      ¬ Extended 2 moved approved ∧ ¬ approved.RangesFit := by
  refine ⟨by decide, by decide, by decide, by decide, rfl, by decide, by decide⟩

end AssetPilot
