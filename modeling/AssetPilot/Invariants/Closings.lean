import AssetPilot.Invariants.Store
import AssetPilot.Effects.Inversion

/-!
# Decisions are final and logged once

A ticket is closed by `resolve` or by the cascade of a return, an extension is decided by `approve` or
`reject`. Whatever the order of the calls, each ticket and each extension has one row about it in the log
once it is closed, no such row before, and is never written again.
-/

namespace AssetPilot

open Relational System Txn

variable {ctx : Ctx} {db db' : Db} {e : Event} {k : UUID}

/-- The number of rows that log the closing of the ticket. -/
def Db.closings (db : Db) (ticketId : UUID) : Nat :=
  db.deviceLog.countP fun l => l.supportRequestId = some ticketId ∧
    (l.eventType = .supportResolved ∨ l.eventType = .supportAutoClosed)

/-- The number of rows that log a decision on the extension. -/
def Db.decisions (db : Db) (extensionId : UUID) : Nat :=
  db.deviceLog.countP fun l => l.extensionRequestId = some extensionId ∧
    (l.eventType = .extensionApproved ∨ l.eventType = .extensionRejected)

/-- Tickets are logged as closed once, and not before; the same for the decisions on extensions. -/
structure Db.LoggedOnce (db : Db) : Prop where
  tickets : ∀ t ∈ db.supportRequests.rows, db.closings t.id = if t.status = .resolved then 1 else 0
  extensions : ∀ x ∈ db.extensionRequests.rows, db.decisions x.id = if x.status = .pending then 0 else 1

instance (db : Db) : Decidable db.LoggedOnce :=
  decidable_of_iff ((∀ t ∈ db.supportRequests.rows, db.closings t.id = if t.status = .resolved then 1 else 0) ∧
    ∀ x ∈ db.extensionRequests.rows, db.decisions x.id = if x.status = .pending then 0 else 1)
    ⟨fun ⟨h₁, h₂⟩ => ⟨h₁, h₂⟩, fun h => ⟨h.tickets, h.extensions⟩⟩

/-- What is closed or decided in `db` is the same row, in every column, in `db'`. -/
structure DecisionsKept (db db' : Db) : Prop where
  tickets : ∀ k t, db.supportRequests.get? k = some t → t.status = .resolved →
    db'.supportRequests.get? k = some t
  extensions : ∀ k x, db.extensionRequests.get? k = some x → x.status ≠ .pending →
    db'.extensionRequests.get? k = some x

/-- Nothing is closed or decided yet. -/
structure Db.Undecided (db : Db) : Prop where
  tickets : ∀ t ∈ db.supportRequests.rows, t.status = .opened
  extensions : ∀ x ∈ db.extensionRequests.rows, x.status = .pending
  log : ∀ l ∈ db.deviceLog, l.closedTicket = none ∧ l.decidedExtension = none

instance (db : Db) : Decidable db.Undecided :=
  decidable_of_iff ((∀ t ∈ db.supportRequests.rows, t.status = .opened) ∧
    (∀ x ∈ db.extensionRequests.rows, x.status = .pending) ∧
    ∀ l ∈ db.deviceLog, l.closedTicket = none ∧ l.decidedExtension = none)
    ⟨fun ⟨h₁, h₂, h₃⟩ => ⟨h₁, h₂, h₃⟩, fun h => ⟨h.tickets, h.extensions, h.log⟩⟩

/-- Every event but a manager's decision on an extension, which is not logged. -/
def Event.LogsDecisions : Event → Prop
  | .portal _ (.decideExtension ..) => False
  | _ => True

/-! ### The rows about one ticket or extension -/

theorem closings_eq (db : Db) (k : UUID) : db.closings k = (closedTickets db.deviceLog).count k := by
  rw [closedTickets, List.count_filterMap, Db.closings]
  apply List.countP_congr
  intro l _
  by_cases h : l.eventType = .supportResolved ∨ l.eventType = .supportAutoClosed
  · simp [DeviceLog.closedTicket, h]
  · simp [DeviceLog.closedTicket, h]

theorem decisions_eq (db : Db) (k : UUID) : db.decisions k = (decidedExtensions db.deviceLog).count k := by
  rw [decidedExtensions, List.count_filterMap, Db.decisions]
  apply List.countP_congr
  intro l _
  by_cases h : l.eventType = .extensionApproved ∨ l.eventType = .extensionRejected
  · simp [DeviceLog.decidedExtension, h]
  · simp [DeviceLog.decidedExtension, h]

/-- The ticket with this key is stored and closed. -/
def Db.Closed (db : Db) (k : UUID) : Prop := ∃ t ∈ db.supportRequests.get? k, t.status = .resolved

instance (db : Db) (k : UUID) : Decidable (db.Closed k) := inferInstanceAs (Decidable (∃ t ∈ _, _))

/-- The extension with this key is stored and decided. -/
def Db.Decided (db : Db) (k : UUID) : Prop := ∃ x ∈ db.extensionRequests.get? k, x.status ≠ .pending

instance (db : Db) (k : UUID) : Decidable (db.Decided k) := inferInstanceAs (Decidable (∃ x ∈ _, _))

/-- The log counts the closed tickets and the decided extensions, whether the keys are taken or not. -/
structure Db.Accounted (db : Db) : Prop where
  tickets : ∀ k, (closedTickets db.deviceLog).count k = if db.Closed k then 1 else 0
  extensions : ∀ k, (decidedExtensions db.deviceLog).count k = if db.Decided k then 1 else 0

theorem Db.closed_iff {t : SupportRequest} (h : db.supportRequests.get? k = some t) :
    db.Closed k ↔ t.status = .resolved := by
  simp [Db.Closed, h]

theorem Db.decided_iff {x : ExtensionRequest} (h : db.extensionRequests.get? k = some x) :
    db.Decided k ↔ x.status ≠ .pending := by
  simp [Db.Decided, h]

theorem Db.closed_set {t t' : SupportRequest} (hset : db'.supportRequests = db.supportRequests.set t')
    (ht : db.supportRequests.get? t.id = some t) (hid : t'.id = t.id) (k : UUID) :
    db'.Closed k ↔ if k = t.id then t'.status = .resolved else db.Closed k := by
  rw [← hid] at ht ⊢
  have hget := Table.get?_set_of_get? (show db.supportRequests.get? (Keyed.key t') = some t from ht) k
  rw [← hset] at hget
  by_cases hk : k = t'.id
  · rw [if_pos hk, Db.closed_iff (hget.trans (if_pos hk))]
  · rw [if_neg hk, Db.Closed, Db.Closed, hget.trans (if_neg hk)]

theorem Db.closed_insert {t : SupportRequest} (hinsert : db'.supportRequests = db.supportRequests.insert t)
    (hfresh : db.supportRequests.get? t.id = none) (k : UUID) :
    db'.Closed k ↔ if k = t.id then t.status = .resolved else db.Closed k := by
  have hget := Table.get?_insert hfresh k
  rw [← hinsert] at hget
  by_cases hk : k = t.id
  · rw [if_pos hk, Db.closed_iff (hget.trans (if_pos hk))]
  · rw [if_neg hk, Db.Closed, Db.Closed, hget.trans (if_neg hk)]

theorem Db.decided_set {x x' : ExtensionRequest}
    (hset : db'.extensionRequests = db.extensionRequests.set x')
    (hx : db.extensionRequests.get? x.id = some x) (hid : x'.id = x.id) (k : UUID) :
    db'.Decided k ↔ if k = x.id then x'.status ≠ .pending else db.Decided k := by
  rw [← hid] at hx ⊢
  have hget := Table.get?_set_of_get? (show db.extensionRequests.get? (Keyed.key x') = some x from hx) k
  rw [← hset] at hget
  by_cases hk : k = x'.id
  · rw [if_pos hk, Db.decided_iff (hget.trans (if_pos hk))]
  · rw [if_neg hk, Db.Decided, Db.Decided, hget.trans (if_neg hk)]

theorem Db.decided_insert {x : ExtensionRequest}
    (hinsert : db'.extensionRequests = db.extensionRequests.insert x)
    (hfresh : db.extensionRequests.get? x.id = none) (k : UUID) :
    db'.Decided k ↔ if k = x.id then x.status ≠ .pending else db.Decided k := by
  have hget := Table.get?_insert hfresh k
  rw [← hinsert] at hget
  by_cases hk : k = x.id
  · rw [if_pos hk, Db.decided_iff (hget.trans (if_pos hk))]
  · rw [if_neg hk, Db.Decided, Db.Decided, hget.trans (if_neg hk)]

theorem Db.Accounted.loggedOnce (h : db.Accounted) : db.LoggedOnce where
  tickets t ht := by
    have hclosed := Db.closed_iff (Table.mem_iff_get?.mp ht)
    rw [closings_eq, h.tickets]
    exact if_congr hclosed rfl rfl
  extensions x hx := by
    have hdecided : db.Decided x.id ↔ x.status ≠ .pending := Db.decided_iff (Table.mem_iff_get?.mp hx)
    rw [decisions_eq, h.extensions]
    by_cases hpending : x.status = .pending
    · rw [if_neg (fun hd => hdecided.mp hd hpending), if_pos hpending]
    · rw [if_pos (hdecided.mpr hpending), if_neg hpending]

theorem Db.Undecided.accounted (h : db.Undecided) : db.Accounted where
  tickets k := by
    have hrows : closedTickets db.deviceLog = [] := List.filterMap_eq_nil_iff.mpr fun l hl => (h.log l hl).1
    have hnot : ¬ db.Closed k := by
      rintro ⟨t, ht, hresolved⟩
      exact absurd ((h.tickets t (Table.get?_mem ht)).symm.trans hresolved) (by decide)
    rw [hrows, if_neg hnot, List.count_nil]
  extensions k := by
    have hrows : decidedExtensions db.deviceLog = [] :=
      List.filterMap_eq_nil_iff.mpr fun l hl => (h.log l hl).2
    have hnot : ¬ db.Decided k := by
      rintro ⟨x, hx, hdecided⟩
      exact hdecided (h.extensions x (Table.get?_mem hx))
    rw [hrows, if_neg hnot, List.count_nil]

/-! ### One event -/

theorem count_append_decided {ids new : List UUID} {before after : UUID → Prop} [DecidablePred before]
    [DecidablePred after] (hcount : ∀ k, ids.count k = if before k then 1 else 0) (hnodup : new.Nodup)
    (hnew : ∀ k ∈ new, ¬ before k ∧ after k) (hold : ∀ k, k ∉ new → (after k ↔ before k)) (k : UUID) :
    (ids ++ new).count k = if after k then 1 else 0 := by
  rw [List.count_append, hcount]
  by_cases hk : k ∈ new
  · rw [List.count_eq_one_of_mem hnodup hk, if_neg (hnew k hk).1, if_pos (hnew k hk).2]
  · rw [List.count_eq_zero.mpr hk]
    exact if_congr (hold k hk).symm rfl rfl

theorem count_same {ids : List UUID} {before after : UUID → Prop} [DecidablePred before]
    [DecidablePred after] (hcount : ∀ k, ids.count k = if before k then 1 else 0)
    (hsame : ∀ k, after k ↔ before k) (k : UUID) : ids.count k = if after k then 1 else 0 :=
  (hcount k).trans (if_congr (hsame k).symm rfl rfl)

/-- **The tickets**: an event closes only open tickets, and logs exactly those that it closes. -/
theorem Event.TicketsStep.accounted (h : e.TicketsStep db db')
    (hcount : ∀ k, (closedTickets db.deviceLog).count k = if db.Closed k then 1 else 0) :
    ∀ k, (closedTickets db'.deviceLog).count k = if db'.Closed k then 1 else 0 := by
  cases h with
  | same hsame hlog =>
    rw [hlog]
    refine count_same hcount fun k => ?_
    rw [Db.Closed, Db.Closed, hsame]
  | start he ht hopen hset hlog =>
    rw [hlog]
    refine count_same hcount fun k => (Db.closed_set hset ht rfl k).trans ?_
    split
    · next hk =>
      rw [hk, Db.closed_iff ht, hopen]
      exact iff_of_false (of_decide_eq_false rfl) (by decide)
    · rfl
  | resolve he ht hopen hset hlog =>
    rw [hlog]
    refine count_append_decided hcount (List.nodup_singleton _) (fun k hk => ?_) fun k hk => ?_
    · obtain rfl := List.mem_singleton.mp hk
      refine ⟨fun hc => hopen ((Db.closed_iff ht).mp hc), (Db.closed_set hset ht rfl _).mpr ?_⟩
      rw [if_pos rfl]
      rfl
    · rw [Db.closed_set hset ht rfl, if_neg fun he => hk (List.mem_singleton.mpr he)]
  | autoClose he hts hnodup hothers hclosed hlog =>
    rw [hlog]
    refine count_append_decided hcount hnodup (fun k hk => ?_) fun k hk => ?_
    · obtain ⟨t, ht, rfl⟩ := List.mem_map.mp hk
      obtain ⟨hmem, -, hopen⟩ := (hts t).mp ht
      obtain ⟨now, u, hrow⟩ := hclosed t ht
      exact ⟨fun hc => hopen ((Db.closed_iff (Table.mem_iff_get?.mp hmem)).mp hc),
        (Db.closed_iff hrow).mpr rfl⟩
    · rw [Db.Closed, Db.Closed, hothers k fun t ht hid => hk (hid ▸ List.mem_map_of_mem ht)]
  | @file _ t u he hfresh hopen hinsert hlog =>
    rw [hlog]
    refine count_same hcount fun k => (Db.closed_insert hinsert hfresh k).trans ?_
    split
    · next hk =>
      have hbefore : ¬ db.Closed k := by
        rintro ⟨x, hx, -⟩
        exact absurd (hfresh.symm.trans (hk ▸ hx)) (Option.some_ne_none x).symm
      exact iff_of_false (fun hc => absurd (hopen.symm.trans hc) (by decide)) hbefore
    · rfl

/-- **The extensions**: a review decides a pending extension, and logs it. -/
theorem Event.ExtensionsStep.accounted (h : e.ExtensionsStep db db') (hok : e.LogsDecisions)
    (hcount : ∀ k, (decidedExtensions db.deviceLog).count k = if db.Decided k then 1 else 0) :
    ∀ k, (decidedExtensions db'.deviceLog).count k = if db'.Decided k then 1 else 0 := by
  cases h with
  | same hsame hlog =>
    rw [hlog]
    refine count_same hcount fun k => ?_
    rw [Db.Decided, Db.Decided, hsame]
  | @review _ op x x' u he hx hreview hset hlog =>
    have hid : x'.id = x.id := by cases hreview <;> rfl
    rw [hlog]
    refine count_append_decided hcount (List.nodup_singleton _) (fun k hk => ?_) fun k hk => ?_
    · obtain rfl := List.mem_singleton.mp hk
      refine ⟨fun hd => (Db.decided_iff hx).mp hd hreview.pending, ?_⟩
      rw [Db.decided_set hset hx hid, if_pos rfl]
      cases hreview <;> exact of_decide_eq_false rfl
    · rw [Db.decided_set hset hx hid, if_neg fun he => hk (List.mem_singleton.mpr he)]
  | manage he =>
    subst he
    exact absurd hok id
  | @file _ x u he hfresh hpending hinsert hlog =>
    rw [hlog]
    refine count_same hcount fun k => (Db.decided_insert hinsert hfresh k).trans ?_
    split
    · next hk =>
      have hbefore : ¬ db.Decided k := by
        rintro ⟨y, hy, -⟩
        exact absurd (hfresh.symm.trans (hk ▸ hy)) (Option.some_ne_none y).symm
      exact iff_of_false (fun hd => hd hpending) hbefore
    · rfl

theorem Db.Accounted.step (h : db.Accounted) (hok : e.LogsDecisions) (hcommits : e.Commits db db') :
    db'.Accounted :=
  ⟨hcommits.effects.tickets.accounted h.tickets, hcommits.effects.extensions.accounted hok h.extensions⟩

/-! ### Finality -/

theorem Event.TicketsStep.kept (h : e.TicketsStep db db') {t : SupportRequest}
    (ht : db.supportRequests.get? k = some t) (hclosed : t.status = .resolved) :
    db'.supportRequests.get? k = some t := by
  cases h with
  | same hsame => rw [hsame, ht]
  | @start _ t' _ _ he ht' hopen hset =>
    have hne : k ≠ t'.id := by
      rintro rfl
      obtain rfl := Option.some.inj (ht.symm.trans ht')
      exact absurd (hopen.symm.trans hclosed) (by decide)
    rw [hset, Table.get?_set_of_ne hne, ht]
  | @resolve _ t' _ _ _ _ _ _ _ he ht' hopen hset =>
    have hne : k ≠ t'.id := by
      rintro rfl
      obtain rfl := Option.some.inj (ht.symm.trans ht')
      exact hopen hclosed
    rw [hset, Table.get?_set_of_ne hne, ht]
  | autoClose he hts hnodup hothers =>
    refine (hothers k fun t' ht' hid => ?_).trans ht
    obtain ⟨hmem, -, hopen⟩ := (hts t').mp ht'
    exact hopen (Option.some.inj ((Table.mem_iff_get?.mp hmem).symm.trans ((congrArg _ hid).trans ht)) ▸ hclosed)
  | @file _ t' u he hfresh hopen hinsert =>
    have hne : k ≠ t'.id := fun hk => Option.some_ne_none t (ht.symm.trans (hk ▸ hfresh))
    rw [hinsert]
    refine ((Table.get?_insert ?_ k).trans (if_neg hne)).trans ht
    exact hfresh

theorem Event.ExtensionsStep.kept (h : e.ExtensionsStep db db') (hok : e.LogsDecisions)
    {x : ExtensionRequest} (hx : db.extensionRequests.get? k = some x) (hdecided : x.status ≠ .pending) :
    db'.extensionRequests.get? k = some x := by
  cases h with
  | same hsame => rw [hsame, hx]
  | @review _ op y y' u he hy hreview hset =>
    have hid : y'.id = y.id := by cases hreview <;> rfl
    have hne : k ≠ y'.id := fun hk =>
      hdecided (Option.some.inj (hx.symm.trans ((congrArg _ (hk.trans hid)).trans hy)) ▸ hreview.pending)
    rw [hset, Table.get?_set_of_ne hne, hx]
  | manage he =>
    subst he
    exact absurd hok id
  | @file _ y u he hfresh hpending hinsert =>
    have hne : k ≠ y.id := fun hk => Option.some_ne_none x (hx.symm.trans (hk ▸ hfresh))
    rw [hinsert]
    refine ((Table.get?_insert ?_ k).trans (if_neg hne)).trans hx
    exact hfresh

theorem DecisionsKept.refl (db : Db) : DecisionsKept db db := ⟨fun _ _ h _ => h, fun _ _ h _ => h⟩

theorem DecisionsKept.step {db'' : Db} (h : DecisionsKept db db') (hok : e.LogsDecisions)
    (hcommits : e.Commits db' db'') : DecisionsKept db db'' where
  tickets k t ht hclosed := hcommits.effects.tickets.kept (h.tickets k t ht hclosed) hclosed
  extensions k x hx hdecided := hcommits.effects.extensions.kept hok (h.extensions k x hx hdecided) hdecided

/-! ### Runs -/

/-- **Every decision is logged once and final**: in every state of a run that starts with open tickets and
pending extensions, and from it in every later one. -/
theorem decisions_of_run (h : db.Undecided) (run : Run Step (fun _ e => e.LogsDecisions) db db') :
    db'.LoggedOnce ∧
      ∀ db'', Run Step (fun _ e => e.LogsDecisions) db' db'' → DecisionsKept db' db'' := by
  constructor
  · refine (run.inv (P := Db.Accounted) (fun s e s' hs hok hstep => ?_) h.accounted).loggedOnce
    rcases hstep.cases with rfl | hcommits
    · exact hs
    · exact hs.step hok hcommits
  · intro db'' later
    refine later.inv (P := DecisionsKept db') (fun s e s' hs hok hstep => ?_) (.refl db')
    rcases hstep.cases with rfl | hcommits
    · exact hs
    · exact hs.step hok hcommits

/-- The ticket is closed by the return, and a resolution after it finds nothing to close. -/
theorem decisions_of_run_return :
    let returned := Sample.after [Sample.call (.completeReturn 2 .available 9)]
    let resolved := Sample.after [Sample.call (.completeReturn 2 .available 9),
      Sample.call (.resolve 1 .remoteResolved none none none 9)]
    returned.LoggedOnce ∧ DecisionsKept returned resolved := by
  have first : Run Step (fun _ e => e.LogsDecisions) Sample.store
      (Sample.after [Sample.call (.completeReturn 2 .available 9)]) :=
    .step .refl (Sample.call (.completeReturn 2 .available 9)) trivial rfl
  have hrun := decisions_of_run (by decide) first
  exact ⟨hrun.1, hrun.2 _ (.step .refl (Sample.call (.resolve 1 .remoteResolved none none none 9)) trivial rfl)⟩

end AssetPilot
