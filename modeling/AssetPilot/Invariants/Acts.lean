import AssetPilot.Invariants.History

/-!
# Each decision is taken once

The acts of a run are the calls that committed and that decide on a request, a ticket or an extension. What an act
leaves behind is among what no run rewrites (`HistoryKept`), and the guards of the acts that it excludes ask for the
contrary: so a history has no two of them.
-/

namespace AssetPilot

open Relational System Txn

variable {ctx : Ctx} {db db' : Db} {op : Op}

inductive Act
  | escalate (requestId : UUID)
  | assign (requestId : UUID)
  | reject (requestId : UUID)
  | cancel (requestId : UUID)
  | start (supportRequestId : UUID)
  | resolve (supportRequestId : UUID)
  | decideExtension (extensionRequestId : UUID)
  deriving DecidableEq

/-- The act that a call is, if it commits. -/
def Op.act : Op → Option Act
  | .escalateToManager requestId _ => some (.escalate requestId)
  | .assign requestId _ _ _ _ _ => some (.assign requestId)
  | .reject requestId _ _ _ => some (.reject requestId)
  | .cancel requestId _ _ => some (.cancel requestId)
  | .start supportRequestId _ => some (.start supportRequestId)
  | .resolve supportRequestId _ _ _ _ _ => some (.resolve supportRequestId)
  | .approveExtension extensionRequestId _ _ => some (.decideExtension extensionRequestId)
  | .rejectExtension extensionRequestId _ _ => some (.decideExtension extensionRequestId)
  | _ => none

def Event.acts (db : Db) : Event → List Act
  | .service ctx op => if op.run.succeeds ctx db then op.act.toList else []
  | .portal _ _ => []

/-- The second act never comes after the first. -/
inductive Act.Excludes : Act → Act → Prop
  | escalated {q} : Excludes (.escalate q) (.escalate q)
  | assigned {q b} (h : b = .escalate q ∨ b = .assign q ∨ b = .reject q) : Excludes (.assign q) b
  | rejected {q b} (h : b = .escalate q ∨ b = .assign q ∨ b = .reject q ∨ b = .cancel q) : Excludes (.reject q) b
  | cancelled {q b} (h : b = .escalate q ∨ b = .assign q ∨ b = .reject q ∨ b = .cancel q) : Excludes (.cancel q) b
  | started {t} : Excludes (.start t) (.start t)
  | resolved {t b} (h : b = .start t ∨ b = .resolve t) : Excludes (.resolve t) b
  | decided {x} : Excludes (.decideExtension x) (.decideExtension x)

/-- What an act leaves behind. -/
def Act.Done (db : Db) : Act → Prop
  | escalate q => ∃ r, db.requests.get? q = some r ∧ r.requiresMgrApproval = true
  | assign q => ∃ r, db.requests.get? q = some r ∧ r.status ∉ _FILED_STATUSES
  | reject q | cancel q => ∃ r, db.requests.get? q = some r ∧ r.status ∈ _TERMINAL_STATUSES
  | start t => ∃ ticket, db.supportRequests.get? t = some ticket ∧ ticket.status ≠ .opened
  | resolve t => ∃ ticket, db.supportRequests.get? t = some ticket ∧ ticket.status = .resolved
  | decideExtension x => ∃ extension, db.extensionRequests.get? x = some extension ∧ extension.status ≠ .pending

theorem Act.Done.kept {a : Act} (h : a.Done db) (hkept : HistoryKept db db') : a.Done db' := by
  cases a with
  | escalate q =>
    obtain ⟨r, hr, hrequires⟩ := h
    obtain ⟨r', hr', hr⟩ := hkept.requests q r hr
    exact ⟨r', hr', hr.requires hrequires⟩
  | assign q =>
    obtain ⟨r, hr, hleft⟩ := h
    obtain ⟨r', hr', hr⟩ := hkept.requests q r hr
    exact ⟨r', hr', hr.left hleft⟩
  | reject q | cancel q =>
    obtain ⟨r, hr, hended⟩ := h
    obtain ⟨r', hr', hr⟩ := hkept.requests q r hr
    exact ⟨r', hr', hr.ended hended⟩
  | start t =>
    obtain ⟨ticket, ht, hstarted⟩ := h
    obtain ⟨ticket', ht', ht⟩ := hkept.supportRequests t ticket ht
    exact ⟨ticket', ht', ht.started hstarted⟩
  | resolve t =>
    obtain ⟨ticket, ht, hresolved⟩ := h
    obtain ⟨ticket', ht', ht⟩ := hkept.supportRequests t ticket ht
    exact ⟨ticket', ht', ht.resolved hresolved ▸ hresolved⟩
  | decideExtension x =>
    obtain ⟨extension, hx, hdecided⟩ := h
    obtain ⟨extension', hx', hx⟩ := hkept.extensionRequests x extension hx
    exact ⟨extension', hx', (hx.decided hdecided).1⟩

/-- What the call checks before it acts. -/
def Act.Open (db : Db) : Act → Prop
  | escalate q => ∃ r, db.requests.get? q = some r ∧ r.status = .pendingItApproval ∧ r.requiresMgrApproval = false
  | assign q | reject q => ∃ r, db.requests.get? q = some r ∧ r.status = .pendingItApproval
  | cancel q => ∃ r, db.requests.get? q = some r ∧ r.status ∉ _TERMINAL_STATUSES
  | start t => ∃ ticket, db.supportRequests.get? t = some ticket ∧ ticket.status = .opened
  | resolve t => ∃ ticket, db.supportRequests.get? t = some ticket ∧ ticket.status ≠ .resolved
  | decideExtension x => ∃ extension, db.extensionRequests.get? x = some extension ∧ extension.status = .pending

/-- The queue that IT decides on is none of what a request can have left. -/
theorem Act.Excludes.not_open {a b : Act} (h : a.Excludes b) (hdone : a.Done db) : ¬ b.Open db := by
  have hqueued : ∀ r : Request, r.status = .pendingItApproval →
      r.status ∈ _FILED_STATUSES ∧ r.status ∉ _TERMINAL_STATUSES := by
    intro r hstatus
    rw [hstatus]
    decide
  cases h with
  | escalated =>
    obtain ⟨r, hr, hrequires⟩ := hdone
    rintro ⟨r', hr', -, hfree⟩
    obtain rfl := Option.some.inj (hr.symm.trans hr')
    exact absurd (hrequires.symm.trans hfree) (by decide)
  | assigned hb =>
    obtain ⟨r, hr, hleft⟩ := hdone
    have hnot : ∀ r', db.requests.get? _ = some r' → r'.status ≠ .pendingItApproval := fun r' hr' hstatus => by
      obtain rfl := Option.some.inj (hr.symm.trans hr')
      exact hleft (hqueued r hstatus).1
    rcases hb with rfl | rfl | rfl
    · rintro ⟨r', hr', hstatus, -⟩
      exact hnot r' hr' hstatus
    · rintro ⟨r', hr', hstatus⟩
      exact hnot r' hr' hstatus
    · rintro ⟨r', hr', hstatus⟩
      exact hnot r' hr' hstatus
  | rejected hb | cancelled hb =>
    obtain ⟨r, hr, hended⟩ := hdone
    have hnot : ∀ r', db.requests.get? _ = some r' → r'.status ∈ _TERMINAL_STATUSES := fun r' hr' =>
      Option.some.inj (hr.symm.trans hr') ▸ hended
    rcases hb with rfl | rfl | rfl | rfl
    · rintro ⟨r', hr', hstatus, -⟩
      exact (hqueued r' hstatus).2 (hnot r' hr')
    · rintro ⟨r', hr', hstatus⟩
      exact (hqueued r' hstatus).2 (hnot r' hr')
    · rintro ⟨r', hr', hstatus⟩
      exact (hqueued r' hstatus).2 (hnot r' hr')
    · rintro ⟨r', hr', hopen⟩
      exact hopen (hnot r' hr')
  | started =>
    obtain ⟨t, ht, hstarted⟩ := hdone
    rintro ⟨t', ht', hopen⟩
    exact hstarted (Option.some.inj (ht.symm.trans ht') ▸ hopen)
  | resolved hb =>
    obtain ⟨t, ht, hresolved⟩ := hdone
    rcases hb with rfl | rfl
    · rintro ⟨t', ht', hopen⟩
      obtain rfl := Option.some.inj (ht.symm.trans ht')
      exact absurd (hresolved.symm.trans hopen) (by decide)
    · rintro ⟨t', ht', hopen⟩
      exact hopen (Option.some.inj (ht.symm.trans ht') ▸ hresolved)
  | decided =>
    obtain ⟨x, hx, hdecided⟩ := hdone
    rintro ⟨x', hx', hpending⟩
    exact hdecided (Option.some.inj (hx.symm.trans hx') ▸ hpending)

/-! ### One call -/

theorem Op.acts {a : Act} (hact : op.act = some a) (h : op.run.Runs ctx db () db') : a.Open db ∧ a.Done db' := by
  cases op
  case assign q itemId f t wfh actorId =>
    obtain rfl := Option.some.inj hact
    obtain ⟨row, h⟩ := runs_discard.mp h
    obtain ⟨r, hr, hstatus, i, -, -, -, -, r', rfl, -, i', -, -, -, -, rfl⟩ := AssignmentService.runs_assign.mp h
    obtain rfl : r.id = q := Table.get?_key hr
    exact ⟨⟨r, hr, hstatus⟩, _, Table.get?_set_self hr rfl, of_decide_eq_true rfl⟩
  case reject q reason note actorId =>
    obtain rfl := Option.some.inj hact
    obtain ⟨row, h⟩ := runs_discard.mp h
    obtain ⟨r, hr, hstatus, -, rfl, rfl⟩ := RequestService.runs_reject.mp h
    obtain rfl : r.id = q := Table.get?_key hr
    exact ⟨⟨r, hr, hstatus⟩, _, Table.get?_set_self hr rfl, of_decide_eq_true rfl⟩
  case cancel q reason actorId =>
    obtain rfl := Option.some.inj hact
    obtain ⟨row, h⟩ := runs_discard.mp h
    obtain ⟨r, hr, hstatus, -, rfl, rfl⟩ := RequestService.runs_cancel.mp h
    obtain rfl : r.id = q := Table.get?_key hr
    exact ⟨⟨r, hr, hstatus⟩, _, Table.get?_set_self hr rfl, of_decide_eq_true rfl⟩
  case escalateToManager q managerId =>
    obtain rfl := Option.some.inj hact
    obtain ⟨row, h⟩ := runs_discard.mp h
    obtain ⟨r, hr, hstatus, -, rfl, rfl⟩ := RequestService.runs_escalateToManager.mp h
    obtain rfl : r.id = q := Table.get?_key hr
    exact ⟨⟨r, hr, hstatus⟩, _, Table.get?_set_self hr rfl, rfl⟩
  case start t actorId =>
    obtain rfl := Option.some.inj hact
    obtain ⟨row, h⟩ := runs_discard.mp h
    obtain ⟨ticket, ht, hopen, t', ht', -, ⟨_, hrepair⟩, -⟩ := SupportService.runs_start.mp h
    obtain rfl : ticket.id = t := Table.get?_key ht
    have hstarted : t'.status ≠ .opened := fun hopened => nomatch (congrArg (·.status) ht').symm.trans hopened
    refine ⟨⟨ticket, ht, hopen⟩, t', ?_, hstarted⟩
    rcases SupportService.runs_startRepair.mp hrepair with ⟨-, rfl⟩ | ⟨-, i, -, i', -, -, l, -, -, rfl⟩
    · exact Table.get?_set_self ht (ht' ▸ rfl)
    · exact Table.get?_set_self ht (ht' ▸ rfl)
  case resolve t resolution note newId next actorId =>
    obtain rfl := Option.some.inj hact
    obtain ⟨row, h⟩ := runs_discard.mp h
    obtain ⟨ticket, ht, hopen, i, hi, _, db₁, happly, t', ht', -, -, -, rfl⟩ := SupportService.runs_resolve.mp h
    obtain rfl : ticket.id = t := Table.get?_key ht
    have htickets := (SupportService.applyResolution_effects note ht hopen hi happly).2.1
    refine ⟨⟨ticket, ht, hopen⟩, t', ?_, (congrArg (·.status) ht').trans rfl⟩
    exact Table.get?_set_self (t := db₁.supportRequests) (htickets ▸ ht) (ht' ▸ rfl)
  case approveExtension x note actorId =>
    obtain rfl := Option.some.inj hact
    obtain ⟨row, h⟩ := runs_discard.mp h
    obtain ⟨extension, hx, hpending, -, p, -, p', -, -, x', rfl, -, d, -, l, -, -, -, rfl⟩ :=
      ExtensionService.runs_approve.mp h
    obtain rfl : extension.id = x := Table.get?_key hx
    exact ⟨⟨extension, hx, hpending⟩, _, Table.get?_set_self hx rfl, of_decide_eq_true rfl⟩
  case rejectExtension x note actorId =>
    obtain rfl := Option.some.inj hact
    obtain ⟨row, h⟩ := runs_discard.mp h
    obtain ⟨extension, hx, hpending, p, -, x', rfl, -, d, -, l, -, -, -, rfl⟩ := ExtensionService.runs_reject.mp h
    obtain rfl : extension.id = x := Table.get?_key hx
    exact ⟨⟨extension, hx, hpending⟩, _, Table.get?_set_self hx rfl, of_decide_eq_true rfl⟩
  all_goals exact nomatch hact

theorem Event.mem_acts {e : Event} {a : Act} (ha : a ∈ e.acts db) (hstep : Step db e db') :
    e.acts db = [a] ∧ a.Open db ∧ a.Done db' := by
  cases e with
  | portal => exact absurd ha List.not_mem_nil
  | service ctx op =>
    simp only [Event.acts] at ha ⊢
    split_ifs at ha ⊢ with hsucceeds
    · have hact : op.act = some a := Option.mem_toList.mp ha
      obtain ⟨_, s, hruns⟩ := succeeds_iff.mp hsucceeds
      obtain rfl : db' = s := (show op.run.exec ctx db = db' from hstep).symm.trans hruns.exec
      exact ⟨by rw [hact, Option.toList_some], Op.acts hact hruns⟩
    · exact absurd ha List.not_mem_nil

/-! ### Runs -/

/-- **Each decision is taken once**: whatever is called in whatever order, no act that commits excludes a later
one. A request is escalated at most once; it is assigned or rejected at most once, and not escalated after that;
and no escalation, assignment, rejection or cancellation comes after it is rejected or cancelled. -/
theorem acts_of_run {ok : Db × List Act → Event → Prop} {acts : List Act}
    (run : Run (Recorded Step fun db e => e.acts db) ok (db, []) (db', acts)) :
    acts.Pairwise fun a b => ¬ a.Excludes b := by
  refine (run.inv (P := fun s => (∀ a ∈ s.2, a.Done s.1) ∧ s.2.Pairwise fun a b => ¬ a.Excludes b) ?_
    ⟨fun a ha => absurd ha List.not_mem_nil, List.Pairwise.nil⟩).2
  intro s e s' ⟨hdone, hacts⟩ _ ⟨hstep, hrecord⟩
  have hkept : HistoryKept s.1 s'.1 := hstep.historyKept
  rw [hrecord]
  refine ⟨fun a ha => ?_, List.pairwise_append.mpr ⟨hacts, ?_, fun a ha b hb hexcludes => ?_⟩⟩
  · rcases List.mem_append.mp ha with ha | ha
    · exact (hdone a ha).kept hkept
    · exact (Event.mem_acts ha hstep).2.2
  · cases hevent : e.acts s.1 with
    | nil =>
      change List.Pairwise _ (e.acts s.1)
      rw [hevent]
      exact List.Pairwise.nil
    | cons b bs =>
      have hsingle := (Event.mem_acts (hevent ▸ List.mem_cons_self : b ∈ e.acts s.1) hstep).1
      change List.Pairwise _ (e.acts s.1)
      rw [hsingle]
      exact List.pairwise_singleton _ b
  · exact hexcludes.not_open (hdone a ha) (Event.mem_acts hb hstep).2.1

/-- Request 1 is assigned, and cancelled. -/
theorem acts_of_run_cancelled : [Act.assign 1, .cancel 1].Pairwise fun a b => ¬ a.Excludes b := by
  have first : Run (Recorded Step fun db e => e.acts db) (fun _ _ => True) (Sample.store, [])
      (Sample.after [Sample.call (.assign 1 1 0 10 false 9)], [.assign 1]) :=
    .step .refl (Sample.call (.assign 1 1 0 10 false 9)) trivial ⟨rfl, rfl⟩
  have second : Run (Recorded Step fun db e => e.acts db) (fun _ _ => True) (Sample.store, [])
      (Sample.after [Sample.call (.assign 1 1 0 10 false 9), Sample.call (.cancel 1 "left" 9)],
        [.assign 1, .cancel 1]) :=
    .step first (Sample.call (.cancel 1 "left" 9)) trivial ⟨rfl, rfl⟩
  exact acts_of_run second

end AssetPilot
