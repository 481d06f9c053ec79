import AssetPilot.Concurrency.Decisions

/-!
# When two decisions on one request serialise

Two calls decide the same request. The outcome of an interleaving is compared with those of running one
call after the other: which calls succeed, and the final rows of the request and of all items. Nothing
stands between two calls that have both read the waiting request, so as soon as both are acceptable the
second overwrites the first (`serialises_iff`).
-/

namespace AssetPilot

open Relational Txn Interleaving

/-! ### Outcomes -/

/-- What is compared: which calls succeed, and the rows of the request and of all items. -/
structure Outcome where
  succeeds : Bool → Bool
  request : Option Request
  items : List Item

section
variable (calls : Bool → Call) (ctxs : Bool → Ctx) (R : UUID) (db : Db)

/-- The store after the interleaving. -/
def storeAfter (schedule : List Bool) : Db := ((concurrently calls ctxs).exec (.start db) schedule).store

/-- The outcome of the interleaving. -/
def interleaved (schedule : List Bool) : Outcome where
  succeeds i := (((concurrently calls ctxs).exec (.start db) schedule).phase i).succeeded
  request := (storeAfter calls ctxs db schedule).requests.get? R
  items := (storeAfter calls ctxs db schedule).items.rows

/-- The outcome of the service operations one after the other, call `i` first. -/
def serial (i : Bool) : Outcome :=
  let between := (calls i).run.exec (ctxs i) db
  let after := (calls !i).run.exec (ctxs !i) between
  { succeeds := fun j =>
      if j = i then (calls i).run.succeeds (ctxs i) db else (calls !i).run.succeeds (ctxs !i) between
    request := after.requests.get? R
    items := after.items.rows }

end

/-- No item that was not assigned before is left assigned to the requester of `R` while `R` is rejected,
cancelled or points elsewhere. -/
def NoStrayItem (R : UUID) (db db' : Db) : Prop :=
  ∀ d x x' r', db.items.get? d = some x → x.status ≠ .assigned →
    db'.items.get? d = some x' → x'.status = .assigned →
    db'.requests.get? R = some r' → x'.currentOwnerId = some r'.requesterId →
    r'.status ≠ .rejected ∧ r'.status ≠ .cancelled ∧ r'.assignedItemId = some d

/-- The interleaving does what one of the two orders does, and leaves no stray item. -/
def Serialises (calls : Bool → Call) (ctxs : Bool → Ctx) (R : UUID) (db : Db) (schedule : List Bool) : Prop :=
  (∃ i, interleaved calls ctxs R db schedule = serial calls ctxs R db i) ∧
    NoStrayItem R db (storeAfter calls ctxs db schedule)

/-- The two calls get in each other's way: an `assign` is cancelled after it, or both have read before
either commits, unless a cancellation comes after an escalation. -/
def Collide (calls : Bool → Call) (schedule : List Bool) : Prop :=
  let first := (calls (firstDone schedule)).target
  let second := (calls !firstDone schedule).target
  (first = .assigned ∧ second = .cancelled) ∨
    (Overlap schedule ∧ ¬ (first = .pendingMgrApproval ∧ second = .cancelled))

variable {calls : Bool → Call} {ctxs : Bool → Ctx} {R : UUID} {db db' : Db} {schedule : List Bool}

instance : Decidable (Collide calls schedule) := inferInstanceAs (Decidable (_ ∨ _))

/-! ### One call -/

variable {c : Call} {ctx : Ctx} {db₁ db₂ : Db} {row : Request}

/-- What becomes of a call that reads at `db` and commits at `db₁`. -/
inductive Fate (c : Call) (ctx : Ctx) (db db₁ : Db) : Bool → Db → Prop
  | lands {row : Request} {db₂ : Db} (h : c.Lands ctx db db₁ row db₂) : Fate c ctx db db₁ true db₂
  | fails (h : ¬ ∃ row db₂, c.Lands ctx db db₁ row db₂) : Fate c ctx db db₁ false db₁

theorem Fate.unique {b b' : Bool} (h : Fate c ctx db db₁ b db₂) (h' : Fate c ctx db db₁ b' db') :
    b' = b ∧ db' = db₂ := by
  have hdet : ∀ {row row' db₂ db₂'}, c.Lands ctx db db₁ row db₂ → c.Lands ctx db db₁ row' db₂' →
      db₂' = db₂ := by
    rintro _ _ _ _ ⟨u, hu, hcommit⟩ ⟨u', hu', hcommit'⟩
    obtain ⟨rfl, -⟩ := Prod.mk.inj (Except.ok.inj (hu.symm.trans hu'))
    exact (Prod.mk.inj (Except.ok.inj (hcommit.symm.trans hcommit'))).2.symm
  cases h with
  | lands h =>
    cases h' with
    | lands h' => exact ⟨rfl, hdet h h'⟩
    | fails h' => exact absurd ⟨_, _, h⟩ h'
  | fails h =>
    cases h' with
    | lands h' => exact absurd ⟨_, _, h'⟩ h
    | fails h' => exact ⟨rfl, rfl⟩

theorem fate_settle (i : Bool) (db db₁ : Db) :
    Fate (calls i) (ctxs i) db db₁ ((concurrently calls ctxs).settle i db db₁).1.succeeded
      ((concurrently calls ctxs).settle i db db₁).2 := by
  unfold Calls.settle
  cases hread : (concurrently calls ctxs).read i db with
  | error e =>
    refine .fails fun ⟨row, db₂, u, hu, _⟩ => ?_
    have hok := hread.symm.trans (concurrently_read_ok.mpr hu)
    cases hok
  | ok u =>
    cases hcommit : (concurrently calls ctxs).commit i u db₁ with
    | ok p =>
      simp only [hcommit]
      exact .lands ⟨u, concurrently_read_ok.mp hread, hcommit⟩
    | error e =>
      simp only [hcommit]
      refine .fails fun ⟨row, db₂, u', hu', hcommit'⟩ => ?_
      obtain rfl := Except.ok.inj (hread.symm.trans (concurrently_read_ok.mpr hu'))
      have hok := hcommit.symm.trans hcommit'
      cases hok

theorem fate_run (c : Call) (ctx : Ctx) (db : Db) :
    Fate c ctx db db (c.run.succeeds ctx db) (c.run.exec ctx db) := by
  rcases c.run.runs_or_fails ctx db with ⟨row, db', h⟩ | ⟨e, h⟩
  · rw [h.succeeds, h.exec]
    exact .lands (Call.lands_self.mpr h)
  · rw [h.not_succeeds, h.exec]
    refine .fails fun ⟨row, db', hlands⟩ => ?_
    have hruns := (Call.lands_self.mp hlands).symm.trans h
    cases hruns

/-! ### Two calls -/

/-- The outcome at `db` when call `i` has success `b` and the other `b'`. -/
def Outcome.at (R : UUID) (db : Db) (i b b' : Bool) : Outcome where
  succeeds j := if j = i then b else b'
  request := db.requests.get? R
  items := db.items.rows

theorem Outcome.at_not (R : UUID) (db : Db) (i b b' : Bool) :
    Outcome.at R db (!i) b' b = .at R db i b b' := by
  unfold Outcome.at
  congr 1
  funext j
  cases i <;> cases j <;> rfl

theorem Outcome.at_succeeds_self (R : UUID) (db : Db) (i b b' : Bool) :
    (Outcome.at R db i b b').succeeds i = b :=
  if_pos rfl

theorem Outcome.at_succeeds (R : UUID) (db : Db) (i b b' : Bool) :
    (Outcome.at R db i b b').succeeds (!i) = b' :=
  if_neg (by simp)

variable (R) in
theorem interleaved_eq {i b b' : Bool} (hs : Complete schedule) (hi : firstDone schedule = i)
    (h : Fate (calls i) (ctxs i) db db b db₁)
    (h' : Fate (calls !i) (ctxs !i) (if Overlap schedule then db else db₁) db₁ b' db₂) :
    interleaved calls ctxs R db schedule = .at R db₂ i b b' ∧ storeAfter calls ctxs db schedule = db₂ := by
  obtain ⟨hfirst, hsecond, hstore⟩ := (concurrently calls ctxs).exec_complete hs db
  rw [hi] at hfirst hsecond hstore
  obtain ⟨hb, hdb⟩ := h.unique (fate_settle i db db)
  rw [hdb] at hsecond hstore
  obtain ⟨hb', hdb'⟩ := h'.unique (fate_settle _ _ _)
  have hafter : storeAfter calls ctxs db schedule = db₂ := hstore.trans hdb'
  refine ⟨?_, hafter⟩
  unfold interleaved Outcome.at
  rw [hafter]
  congr 1
  funext j
  by_cases hj : j = i
  · rw [if_pos hj, hj, hfirst, hb]
  · obtain rfl : j = !i := Bool.eq_not.mpr hj
    rw [if_neg hj, hsecond, hb']

variable (R) in
theorem serial_eq {i b b' : Bool} (h : Fate (calls i) (ctxs i) db db b db₁)
    (h' : Fate (calls !i) (ctxs !i) db₁ db₁ b' db₂) :
    serial calls ctxs R db i = .at R db₂ i b b' := by
  obtain ⟨hb, hdb⟩ := h.unique (fate_run _ _ _)
  unfold serial Outcome.at
  simp only [hdb, hb]
  obtain ⟨hb', hdb'⟩ := h'.unique (fate_run _ _ _)
  rw [hdb', hb']

/-! ### Stray items -/

theorem target_of_open (h : c.target ∉ _TERMINAL_STATUSES) :
    c.target = .assigned ∨ c.target = .pendingMgrApproval := by
  cases c with
  | assign | directAssign => exact .inl rfl
  | escalateToManager => exact .inr rfl
  | reject => exact absurd (show RequestStatus.rejected ∈ _TERMINAL_STATUSES by decide) h
  | cancel => exact absurd (show RequestStatus.cancelled ∈ _TERMINAL_STATUSES by decide) h

theorem noStrayItem_of_items (h : db'.items = db.items) : NoStrayItem R db db' := by
  intro d x x' r' hx hnot hx' hassigned
  rw [h] at hx'
  obtain rfl := Option.some.inj (hx.symm.trans hx')
  exact absurd hassigned hnot

theorem noStrayItem_of_decided {r : Request} (h : Decided R c db r row db') : NoStrayItem R db db' := by
  by_cases hitem : c.item = none
  · exact noStrayItem_of_items (h.untouched hitem)
  · have htarget : c.target = .assigned := by
      by_contra hne
      exact hitem (Call.item_eq_none hne)
    obtain ⟨d, hd⟩ := Option.ne_none_iff_exists'.mp hitem
    obtain ⟨hdevice, hothers⟩ := h.handed d hd
    intro k x x' r' hx hnot hx' hassigned hr' _
    by_cases hk : k = d
    · subst hk
      obtain rfl := Option.some.inj (h.since.stored.symm.trans hr')
      rw [h.status, htarget]
      exact ⟨by decide, by decide, hdevice⟩
    · rw [hothers k hk] at hx'
      obtain rfl := Option.some.inj (hx.symm.trans hx')
      exact absurd hassigned hnot

theorem strayItem_of_cancelled {r r₁ : Request} {c' : Call} (h : db.Consistent)
    (hc : c.request = some R) (hcTarget : c.target = .assigned) (hlands : c.Lands ctx db db r₁ db₁)
    (hfirst : Decided R c db r r₁ db₁) (hc' : c'.target = .cancelled)
    (hsecond : Decided R c' db₁ r₁ row db₂) : ¬ NoStrayItem R db db₂ := by
  intro hstray
  have hitems : db₂.items = db₁.items := hsecond.items_eq (by rw [hc']; decide)
  obtain ⟨itemId, f, t, wfh, actorId, rfl⟩ := Call.eq_assign hc hcTarget
  obtain ⟨u, hu, hcommit⟩ := hlands
  obtain ⟨-, -, -, x, hx, havailable, -⟩ := runs_stageAssign.mp hu
  have hstaged := staged_of_read (c := .assign R itemId f t wfh actorId) (Option.some_ne_none itemId) hu
  obtain ⟨d, hd, hhands, -⟩ := hstaged.handsOut h hcommit
  obtain rfl := Option.some.inj hd
  obtain ⟨r', i, hr', -, hi, hassigned, howner⟩ := hhands.allocated
  obtain rfl := Option.some.inj (hfirst.since.stored.symm.trans hr')
  have hrow := hstray itemId x i row hx (by rw [havailable]; decide) (hitems ▸ hi) hassigned
    hsecond.since.stored (howner.trans (congrArg some hsecond.requester.symm))
  exact hrow.2.1 (hsecond.status.trans hc')

/-! ### The exact condition -/

theorem fate_exists (c : Call) (ctx : Ctx) (db db₁ : Db) : ∃ b db₂, Fate c ctx db db₁ b db₂ := by
  by_cases h : ∃ row db₂, c.Lands ctx db db₁ row db₂
  · obtain ⟨row, db₂, h⟩ := h
    exact ⟨true, db₂, .lands h⟩
  · exact ⟨false, db₁, .fails h⟩

section
variable {r : Request} (h : db.Consistent) (hqueued : db.Queued) (hr : db.requests.get? R = some r)
  (hpending : r.status = .pendingItApproval) (hcalls : ∀ i, (calls i).request = some R)
include h hqueued hr hpending hcalls

variable (ctxs) in
theorem lands_iff (i : Bool) :
    (∃ row db', (calls i).Lands (ctxs i) db db row db') ↔ (calls i).Accepted db r :=
  ⟨fun ⟨_, _, hlands⟩ => accepted_of_lands h hqueued hr hpending (hcalls i) (.refl h hr) hlands,
    lands_of_accepted _ h hqueued hr hpending (hcalls i) (.refl h hr)⟩

theorem serialises_of_first_refused {i : Bool} (hs : Complete schedule) (hi : firstDone schedule = i)
    (hrefused : ¬ (calls i).Accepted db r) : Serialises calls ctxs R db schedule := by
  have hfirst : Fate (calls i) (ctxs i) db db false db :=
    .fails fun hlands => hrefused ((lands_iff ctxs h hqueued hr hpending hcalls i).mp hlands)
  obtain ⟨b, db₂, hsecond⟩ := fate_exists (calls !i) (ctxs !i) db db
  obtain ⟨houtcome, hafter⟩ := interleaved_eq R hs hi hfirst (by rwa [ite_self])
  refine ⟨⟨i, houtcome.trans (serial_eq R hfirst hsecond).symm⟩, ?_⟩
  rw [hafter]
  cases hsecond with
  | lands hlands =>
    exact noStrayItem_of_decided (decided_of_lands hqueued hr hpending (hcalls !i) (.refl h hr) hlands)
  | fails => exact noStrayItem_of_items rfl

/-- One after the other, two calls serialise by definition; an `assign` that is cancelled leaves a stray
item all the same. -/
theorem serialises_iff_of_serial {i : Bool} (hs : Complete schedule) (hi : firstDone schedule = i)
    (hoverlap : ¬ Overlap schedule) (hfirst : (calls i).Accepted db r) :
    Serialises calls ctxs R db schedule ↔
      ¬ ((calls !i).Accepted db r ∧ (calls i).target = .assigned ∧ (calls !i).target = .cancelled) := by
  obtain ⟨r₁, db₁, hlands⟩ := (lands_iff ctxs h hqueued hr hpending hcalls i).mpr hfirst
  have hdecided := decided_of_lands hqueued hr hpending (hcalls i) (.refl h hr) hlands
  have hsince : Since R db db₁ r₁ := hdecided.since
  have hstatus : r₁.status ≠ .pendingItApproval := by
    rw [hdecided.status]
    exact (calls i).target_ne_pending
  obtain ⟨b', db₂, hsecond⟩ := fate_exists (calls !i) (ctxs !i) db₁ db₁
  obtain ⟨houtcome, hafter⟩ := interleaved_eq R hs hi (.lands hlands) (by rwa [if_neg hoverlap])
  have hserial := houtcome.trans (serial_eq R (.lands hlands) hsecond).symm
  have hiff : Serialises calls ctxs R db schedule ↔ NoStrayItem R db db₂ :=
    ⟨fun hser => hafter ▸ hser.2, fun hstray => ⟨⟨i, hserial⟩, hafter.symm ▸ hstray⟩⟩
  rw [hiff]
  cases hsecond with
  | @lands row _ hlands' =>
    obtain ⟨htarget, hopen⟩ := lands_after hsince.stored hstatus (hcalls !i) hlands'
    have hdecided' := cancel_decided hsince hopen (hcalls !i) htarget hlands'
    by_cases hassigned : (calls i).target = .assigned
    · have haccepted := (cancel_lands_iff (r := r) hsince hopen (hcalls !i) htarget).mp ⟨row, db₂, hlands'⟩
      exact iff_of_false (strayItem_of_cancelled h (hcalls i) hassigned hlands hdecided htarget hdecided')
        (not_not_intro ⟨haccepted, hassigned, htarget⟩)
    · refine iff_of_true (noStrayItem_of_items ?_) fun hcollide => hassigned hcollide.2.1
      rw [hdecided'.items_eq (by rw [htarget]; decide), hdecided.items_eq hassigned]
  | fails hfails =>
    refine iff_of_true (noStrayItem_of_decided hdecided) ?_
    rintro ⟨haccepted, hassigned, htarget⟩
    have hopen : r₁.status ∉ _TERMINAL_STATUSES := by
      rw [hdecided.status, hassigned]
      decide
    exact hfails ((cancel_lands_iff hsince hopen (hcalls !i) htarget).mpr haccepted)

theorem serialises_of_second_refused {i : Bool} (hs : Complete schedule) (hi : firstDone schedule = i)
    (hoverlap : Overlap schedule) (hfirst : (calls i).Accepted db r)
    (hrefused : ¬ (calls !i).Accepted db r) : Serialises calls ctxs R db schedule := by
  obtain ⟨r₁, db₁, hlands⟩ := (lands_iff ctxs h hqueued hr hpending hcalls i).mpr hfirst
  have hdecided := decided_of_lands hqueued hr hpending (hcalls i) (.refl h hr) hlands
  have hlate : Fate (calls !i) (ctxs !i) db db₁ false db₁ :=
    .fails fun ⟨_, _, hlands'⟩ => hrefused
      (accepted_of_lands h hqueued hr hpending (hcalls !i) hdecided.since hlands')
  have halone : Fate (calls !i) (ctxs !i) db db false db :=
    .fails fun hlands' => hrefused ((lands_iff ctxs h hqueued hr hpending hcalls !i).mp hlands')
  obtain ⟨houtcome, hafter⟩ := interleaved_eq R hs hi (.lands hlands) (by rwa [if_pos hoverlap])
  have hserial : serial calls ctxs R db (!i) = .at R db₁ (!i) false true :=
    serial_eq R halone (by rw [Bool.not_not]; exact .lands hlands)
  refine ⟨⟨!i, houtcome.trans (hserial.trans (Outcome.at_not R db₁ i true false)).symm⟩, ?_⟩
  rw [hafter]
  exact noStrayItem_of_decided hdecided

variable (ctxs) in
theorem cancelled_of_serial {i : Bool} {r₁ : Request} (hlands : (calls i).Lands (ctxs i) db db r₁ db₁)
    (hboth : Outcome.at R db₂ i true true = serial calls ctxs R db i) :
    (calls !i).target = .cancelled ∧ ((calls i).target = .assigned ∨ (calls i).target = .pendingMgrApproval) := by
  have hdecided := decided_of_lands hqueued hr hpending (hcalls i) (.refl h hr) hlands
  obtain ⟨b, db₃, hfate⟩ := fate_exists (calls !i) (ctxs !i) db₁ db₁
  rw [serial_eq R (.lands hlands) hfate] at hboth
  have hb := congrFun (congrArg Outcome.succeeds hboth) !i
  rw [Outcome.at_succeeds, Outcome.at_succeeds] at hb
  subst hb
  cases hfate with
  | lands hnow =>
    have hstatus : r₁.status ≠ .pendingItApproval := hdecided.status ▸ (calls i).target_ne_pending
    obtain ⟨htarget, hopen⟩ := lands_after hdecided.since.stored hstatus (hcalls !i) hnow
    exact ⟨htarget, target_of_open (hdecided.status ▸ hopen)⟩

variable (ctxs) in
/-- The other order does not end as the second call leaves the request: it would end cancelled by the first, and
a second call that cancels leaves nothing to the first. -/
theorem at_ne_serial_not {i : Bool} {r₁ : Request} (hsecond : (calls !i).Accepted db r)
    (hlate : Decided R (calls !i) db₁ r₁ row db₂) : Outcome.at R db₂ i true true ≠ serial calls ctxs R db !i := by
  intro hserial
  obtain ⟨r₂, db₃, hlands⟩ := (lands_iff ctxs h hqueued hr hpending hcalls !i).mpr hsecond
  have hdecided := decided_of_lands hqueued hr hpending (hcalls !i) (.refl h hr) hlands
  obtain ⟨b, db₄, hfate⟩ := fate_exists (calls i) (ctxs i) db₃ db₃
  rw [serial_eq R (.lands hlands) (by rw [Bool.not_not]; exact hfate), Outcome.at_not] at hserial
  have hb := congrFun (congrArg Outcome.succeeds hserial) i
  rw [Outcome.at_succeeds_self, Outcome.at_succeeds_self] at hb
  subst hb
  cases hfate with
  | @lands row₄ _ hnow =>
    have hstatus : r₂.status ≠ .pendingItApproval := hdecided.status ▸ (calls !i).target_ne_pending
    obtain ⟨htarget, hopen⟩ := lands_after hdecided.since.stored hstatus (hcalls i) hnow
    have hcancels := cancel_decided hdecided.since hopen (hcalls i) htarget hnow
    have hrow : some row = some row₄ := hlate.since.stored.symm.trans
      ((congrArg Outcome.request hserial).trans hcancels.since.stored)
    have hcancelled : (calls !i).target = .cancelled := by
      rw [← hlate.status, Option.some.inj hrow, hcancels.status, htarget]
    rw [hdecided.status, hcancelled] at hopen
    exact absurd (by decide) hopen

/-- When both have read and both are acceptable, both succeed; only a cancellation after an escalation
amounts to one of the orders. -/
theorem serialises_iff_of_overlap {i : Bool} (hs : Complete schedule) (hi : firstDone schedule = i)
    (hoverlap : Overlap schedule) (hfirst : (calls i).Accepted db r)
    (hsecond : (calls !i).Accepted db r) :
    Serialises calls ctxs R db schedule ↔
      (calls i).target = .pendingMgrApproval ∧ (calls !i).target = .cancelled := by
  obtain ⟨r₁, db₁, hlands⟩ := (lands_iff ctxs h hqueued hr hpending hcalls i).mpr hfirst
  have hdecided := decided_of_lands hqueued hr hpending (hcalls i) (.refl h hr) hlands
  obtain ⟨row, db₂, hlate⟩ :=
    lands_of_accepted (ctxs !i) h hqueued hr hpending (hcalls !i) hdecided.since hsecond
  have hdecided' := decided_of_lands hqueued hr hpending (hcalls !i) hdecided.since hlate
  obtain ⟨houtcome, hafter⟩ := interleaved_eq R hs hi (.lands hlands)
    (by rw [if_pos hoverlap]; exact .lands hlate)
  constructor
  · rintro ⟨⟨j, hserial⟩, hstray⟩
    rw [houtcome] at hserial
    rw [hafter] at hstray
    by_cases hj : j = i
    · subst hj
      obtain ⟨htarget, hfirst⟩ := cancelled_of_serial ctxs h hqueued hr hpending hcalls hlands hserial
      refine ⟨hfirst.resolve_left fun hassigned => ?_, htarget⟩
      exact strayItem_of_cancelled h (hcalls j) hassigned hlands hdecided htarget hdecided' hstray
    · obtain rfl : j = !i := Bool.eq_not.mpr hj
      exact absurd hserial (at_ne_serial_not ctxs h hqueued hr hpending hcalls hsecond hdecided')
  · rintro ⟨htarget, htarget'⟩
    have hnow := cancel_lands_after_escalation h hqueued hr hpending (hcalls i) htarget hlands (hcalls !i)
      htarget' hlate
    refine ⟨⟨i, houtcome.trans (serial_eq R (.lands hlands) (.lands hnow)).symm⟩, ?_⟩
    rw [hafter]
    refine noStrayItem_of_items ?_
    rw [hdecided'.items_eq (by rw [htarget']; decide), hdecided.items_eq (by rw [htarget]; decide)]

/-- **Two decisions on one waiting request serialise** unless both are acceptable and they collide. -/
theorem serialises_iff (hs : Complete schedule) :
    Serialises calls ctxs R db schedule ↔
      ¬ ((∀ i, (calls i).Accepted db r) ∧ Collide calls schedule) := by
  obtain ⟨i, hi⟩ : ∃ i, firstDone schedule = i := ⟨_, rfl⟩
  have hboth : (∀ j, (calls j).Accepted db r) ↔ (calls i).Accepted db r ∧ (calls !i).Accepted db r := by
    cases i
    · exact Bool.forall_bool
    · exact Bool.forall_bool.trans and_comm
  rw [hboth, Collide, hi]
  by_cases hfirst : (calls i).Accepted db r
  · by_cases hoverlap : Overlap schedule
    · by_cases hsecond : (calls !i).Accepted db r
      · rw [serialises_iff_of_overlap h hqueued hr hpending hcalls hs hi hoverlap hfirst hsecond]
        have hdiff : (calls i).target = .pendingMgrApproval → (calls i).target ≠ .assigned :=
          fun he he' => absurd (he.symm.trans he') (by decide)
        simp only [hfirst, hsecond, hoverlap, true_and]
        tauto
      · refine iff_of_true ?_ fun hcollide => hsecond hcollide.1.2
        exact serialises_of_second_refused h hqueued hr hpending hcalls hs hi hoverlap hfirst hsecond
    · rw [serialises_iff_of_serial h hqueued hr hpending hcalls hs hi hoverlap hfirst]
      simp only [hfirst, hoverlap, true_and, false_and, or_false]
  · exact iff_of_true (serialises_of_first_refused h hqueued hr hpending hcalls hs hi hfirst)
      fun hcollide => hfirst hcollide.1.1

end

/-- Request 1 is sent to a manager, and cancelled. -/
def Sample.withdrawal : Bool → Call
  | false => .escalateToManager 1 none
  | true => .cancel 1 "left" 9

/-- Both read the waiting request; the cancellation commits after the escalation. -/
theorem serialises_withdrawal :
    Serialises Sample.withdrawal (fun _ => Sample.ctx) 1 Sample.store [false, true, false, true] :=
  (serialises_iff (by decide : Sample.store.Consistent) (by decide)
    (show Sample.store.requests.get? 1 = some (Sample.request 1 1 .pendingItApproval none) from rfl) rfl
    (fun i => by cases i <;> rfl) (by decide)).mpr fun h => absurd h.2 (by decide)

/-- Request 1 gets laptop 1, and is rejected. -/
def Sample.dispute : Bool → Call
  | false => .assign 1 1 0 10 false 9
  | true => .reject 1 "no budget" none 9

/-- Both read the waiting request, and both commit: request 1 ends rejected, and laptop 1 stays assigned to
its requester. -/
theorem dispute_not_serialises :
    Sample.store.Consistent ∧ Sample.store.Queued ∧ Complete [false, true, false, true] ∧
      (∀ i, (Sample.dispute i).request = some 1) ∧
      (let db := storeAfter Sample.dispute (fun _ => Sample.ctx) Sample.store [false, true, false, true]
       (db.requests.get? 1).map Request.status = some .rejected ∧
        (db.items.get? 1).map (fun i => (i.status, i.currentOwnerId)) = some (.assigned, some 1)) ∧
      ¬ Serialises Sample.dispute (fun _ => Sample.ctx) 1 Sample.store [false, true, false, true] := by
  refine ⟨by decide, by decide, by decide, fun i => by cases i <;> rfl, by decide, ?_⟩
  rintro ⟨⟨i, hserial⟩, -⟩
  -- in either order the second call is refused
  have hsecond := congrFun (congrArg Outcome.succeeds hserial) !i
  cases i with
  | false => exact absurd hsecond (by decide)
  | true => exact absurd hsecond (by decide)

end AssetPilot
