import AssetPilot.Effects.Items
import AssetPilot.Invariants.Timeline

/-!
# The order of the timeline

`get_timeline` sorts the rows of a device by `occurred_at`, the start of the transaction that wrote them. Rows
of one transaction tie, and so the timeline is in the order in which its rows were appended exactly while no
transaction appends two rows of the device.
-/

namespace AssetPilot

open Relational System Txn DeviceLogService DeviceLogRepository
open SQLAlchemyRepository (flushed)

variable {ctx : Ctx} {db db' : Db} {e : Event} {d : UUID}

/-- The rows of the device, in the order in which they were appended. -/
def appendedEntries (d : UUID) (db : Db) : List DeviceLogEntry := (rowsForItem d false db).map entryFromRow

/-- Whatever the answers to `ORDER BY`, the whole timeline of the device has its rows in the order in which they
were appended, and the timeline of milestones is the part of it that is milestones. -/
structure Db.TimelineInOrder (db : Db) (d : UUID) : Prop where
  all : ∀ ctx order entries, (getTimeline d false order).Runs ctx db entries db →
    entries = appendedEntries d db
  milestones : ∀ ctx order entries, (getTimeline d true order).Runs ctx db entries db →
    entries = (appendedEntries d db).filter fun entry => entry.isMilestone

/-- The rows of the device were written at different times, one after another. -/
def Db.Stamped (db : Db) (d : UUID) : Prop :=
  (timeline d db.deviceLog).Pairwise fun l l' => l.occurredAt < l'.occurredAt

instance (db : Db) (d : UUID) : Decidable (db.Stamped d) := inferInstanceAs (Decidable (List.Pairwise _ _))

/-! ### The rows of the query -/

theorem rowsForItem_nodup {b : Bool} : (rowsForItem d b db).Nodup := by
  have hkeys : (db.deviceLog.zipIdx.map Prod.snd).Nodup := by
    rw [List.zipIdx_map_snd]
    exact List.nodup_range'
  refine List.Nodup.filterMap (fun x y row hx hy => ?_) hkeys.of_map
  rw [Option.mem_def, Option.ite_none_right_eq_some, Option.some_inj] at hx hy
  have hrow := hx.2.trans hy.2.symm
  simp only [DeviceLogRow.mk.injEq] at hrow
  exact Prod.ext hrow.2.1 hrow.1

theorem rowsForItem_milestones :
    rowsForItem d true db = (rowsForItem d false db).filter fun row => row.deviceLog.isMilestone := by
  rw [rowsForItem, rowsForItem, List.filter_filterMap]
  refine List.filterMap_congr fun x _ => ?_
  by_cases hitem : x.1.itemId = d <;> by_cases hmilestone : x.1.isMilestone = true <;>
    simp [hitem, hmilestone, Option.filter]

theorem rowsForItem_deviceLog :
    (rowsForItem d false db).map DeviceLogRow.deviceLog = timeline d db.deviceLog := by
  have hrow : ∀ x : DeviceLog × Nat, (if x.1.itemId = d ∧ (false = true → x.1.isMilestone = true) then
      some (DeviceLogRow.mk x.2 x.1 ((x.1.actorId.bind db.users.get?).map User.name)) else none).map
        DeviceLogRow.deviceLog = Option.guard (fun l : DeviceLog => l.itemId = d) x.1 := fun x => by
    by_cases hitem : x.1.itemId = d <;> simp [hitem, Option.guard]
  rw [rowsForItem, List.map_filterMap]
  simp only [hrow]
  rw [timeline, ← List.filterMap_eq_filter, ← List.zipIdx_map_fst 0 db.deviceLog, List.filterMap_map,
    List.zipIdx_map_fst]
  rfl

theorem entryFromRow_injective : Function.Injective entryFromRow := by
  rintro ⟨id, log, actorName⟩ ⟨id', log', actorName'⟩ h
  obtain ⟨rfl, rfl, rfl⟩ : log = log' ∧ id = id' ∧ actorName = actorName' := by simpa [entryFromRow] using h
  rfl

/-- **The timeline is in order** exactly when the times of the rows increase. -/
theorem timelineInOrder_iff : db.TimelineInOrder d ↔ db.Stamped d := by
  have hstamped : db.Stamped d ↔ (rowsForItem d false db).Pairwise fun x y => ¬ timeOrder y x := by
    rw [Db.Stamped, ← rowsForItem_deviceLog, List.pairwise_map]
    simp only [Asc, not_le]
  rw [hstamped]
  constructor
  · intro h
    refine (OrderBy.sort_fixed_iff rowsForItem_nodup).mp fun order => ?_
    have hentries := h.all Sample.ctx order _ (runs_getTimeline.mpr ⟨rfl, rfl⟩)
    exact entryFromRow_injective.list_map hentries
  · intro h
    refine ⟨fun ctx order entries hruns => ?_, fun ctx order entries hruns => ?_⟩
    · rw [(runs_getTimeline.mp hruns).1, order.sort_eq_self h, appendedEntries]
    · have hmilestones : (rowsForItem d true db).Pairwise fun x y => ¬ timeOrder y x := by
        rw [rowsForItem_milestones]
        exact h.filter _
      rw [(runs_getTimeline.mp hruns).1, order.sort_eq_self hmilestones, rowsForItem_milestones, appendedEntries,
        List.filter_map]
      rfl

/-! ### One event -/

/-- The call appends two rows of the device, or more: past its guards, a return of the device, or a ticket about it
that is resolved otherwise than from afar. -/
def Op.LogsTwice (d : UUID) (db : Db) : Op → Prop
  | .completeReturn requestId _ _ => ∃ r ∈ db.requests.get? requestId,
      ∃ i ∈ r.assignedItemId.bind db.items.get?, i.status ∈ ShippingService._RETURN_ELIGIBLE_STATUSES ∧ i.id = d
  | .resolve ticketId .repairedInPlace _ _ _ _ => ∃ t ∈ db.supportRequests.get? ticketId,
      t.status ≠ .resolved ∧ ∃ i ∈ db.items.get? t.itemId, i.status = .underRepair ∧ i.id = d
  | .resolve ticketId .swapped _ newId _ _ => ∃ i n, db.Swaps ticketId newId i n ∧ i.id = d
  | .resolve ticketId .markedLost _ _ _ _ => ∃ t ∈ db.supportRequests.get? ticketId,
      t.status ≠ .resolved ∧ db.tiedRequest t ≠ none ∧ ∃ i ∈ db.items.get? t.itemId, i.id = d
  | _ => False

/-- The event appends at most one row of the device. -/
def Event.LogsOnce (d : UUID) (db : Db) : Event → Prop
  | .service _ op => ¬ op.LogsTwice d db
  | .portal _ _ => True

/-- The transaction starts after those that are in the log. -/
def Event.Sequential (db : Db) : Event → Prop
  | .service ctx _ => ∀ l ∈ db.deviceLog, l.occurredAt < ctx.txTime
  | .portal _ _ => True

instance (db : Db) (e : Event) : Decidable (e.Sequential db) :=
  match e with
  | .service .. => inferInstanceAs (Decidable (∀ l ∈ _, _))
  | .portal .. => isTrue trivial

/-- Between `db` and `db'` rows were appended at the time of the transaction, and two or more of them were rows of
`d` exactly if `twice`. -/
def Stamps (ctx : Ctx) (d : UUID) (twice : Prop) (db db' : Db) : Prop :=
  ∃ rows, db'.deviceLog = db.deviceLog ++ rows ∧ (∀ l ∈ rows, l.occurredAt = ctx.txTime) ∧
    (2 ≤ (timeline d rows).length ↔ twice)

theorem timeline_length_le {rows : List DeviceLog} : (timeline d rows).length ≤ rows.length :=
  List.length_filter_le ..

theorem timeline_of_eq {itemId : UUID} {rows : List DeviceLog} (h : ∀ l ∈ rows, l.itemId = itemId) :
    timeline d rows = if itemId = d then rows else [] := by
  split
  · next hd => exact List.filter_eq_self.mpr fun l hl => decide_eq_true ((h l hl).trans hd)
  · next hd => exact timeline_of_ne fun l hl => h l hl ▸ hd

namespace Stamps

theorem none (hlog : db'.deviceLog = db.deviceLog) : Stamps ctx d False db db' :=
  ⟨[], by rw [hlog, List.append_nil], by simp, by simp [timeline]⟩

theorem one {a : AppendArgs} (hlog : db'.deviceLog = db.deviceLog ++ [a.written ctx]) :
    Stamps ctx d False db db' := by
  refine ⟨[a.written ctx], hlog, by simp [AppendArgs.written], iff_false_intro fun h => ?_⟩
  have hlength : (timeline d [a.written ctx]).length ≤ 1 := timeline_length_le
  omega

/-- Two rows that tie are not in order; one row, later than those before, is. -/
theorem stamped_iff {twice : Prop} (h : Stamps ctx d twice db db') (hstamped : db.Stamped d)
    (hafter : ∀ l ∈ db.deviceLog, l.occurredAt < ctx.txTime) : db'.Stamped d ↔ ¬ twice := by
  obtain ⟨rows, hlog, htime, htwice⟩ := h
  have htime' : ∀ l ∈ timeline d rows, l.occurredAt = ctx.txTime := fun l hl => htime l (List.mem_of_mem_filter hl)
  have hcross : ∀ l ∈ timeline d db.deviceLog, ∀ l' ∈ timeline d rows, l.occurredAt < l'.occurredAt := by
    intro l hl l' hl'
    rw [htime' l' hl']
    exact hafter l (List.mem_of_mem_filter hl)
  have hnew : (timeline d rows).Pairwise (fun l l' => l.occurredAt < l'.occurredAt) ↔
      (timeline d rows).length < 2 := by
    match hrows : timeline d rows with
    | [] => simp
    | [l] => simp
    | l :: l' :: rest =>
      rw [hrows] at htime'
      have hl := htime' l List.mem_cons_self
      have hl' := htime' l' (List.mem_cons_of_mem _ List.mem_cons_self)
      simp [hl, hl']
  rw [← htwice, not_le, ← hnew, Db.Stamped, hlog, timeline_append, List.pairwise_append]
  exact ⟨fun h => h.2.1, fun h => ⟨hstamped, h, hcross⟩⟩

end Stamps

theorem ShippingService.completeReturn_stamps {requestId actorId : UUID} {next : DeviceStatus} {row : Request}
    (h : (completeReturn requestId next actorId).Runs ctx db row db') :
    Stamps ctx d ((Op.completeReturn requestId next actorId).LogsTwice d db) db db' := by
  obtain ⟨r, hr, i, ⟨e, he, hi⟩, hstatus, r', -, -, i', hi', -, l, rfl, -, l', rfl, -, ⟨_, hclose⟩, -⟩ :=
    runs_completeReturn.mp h
  obtain ⟨ts, -, hclosed⟩ := runs_autoCloseOpenSupport hclose
  obtain rfl : i'.id = e := hi' ▸ Table.get?_key hi
  have hid : i.id = i'.id := Table.get?_key hi
  have hdevice : (Op.completeReturn requestId next actorId).LogsTwice d db ↔ i'.id = d := by
    simp [Op.LogsTwice, hr, bind_eq_some he hi, hstatus, hid]
  let rows := (shippingLog .returnReceived i'.id r'.id actorId i.status next none).written ctx ::
    (completionLog i'.id r'.id actorId).written ctx :: ts.map fun t => (closedLog i'.id t.id).written ctx
  have hrows : ∀ l ∈ rows, l.itemId = i'.id ∧ l.occurredAt = ctx.txTime := by
    intro l hl
    rcases List.mem_cons.mp hl with rfl | hl
    · exact ⟨rfl, rfl⟩
    rcases List.mem_cons.mp hl with rfl | hl
    · exact ⟨rfl, rfl⟩
    obtain ⟨t, -, rfl⟩ := List.mem_map.mp hl
    exact ⟨rfl, rfl⟩
  refine ⟨rows, ?_, fun l hl => (hrows l hl).2, ?_⟩
  · rw [hclosed.deviceLog]
    simp [rows, Db.appendLog, Db.setItem, Db.setRequest]
  · rw [hdevice, timeline_of_eq fun l hl => (hrows l hl).1]
    split
    · next hd => simp [rows, hd]
    · next hd => simp [hd]

namespace SupportService

variable {ticketId actorId : UUID} {row : SupportRequest}

/-- What a resolution appends before the ticket is logged as resolved. -/
theorem applyResolution_log {ticket : SupportRequest} {item : Item} {resolution : SupportResolution}
    {newId : Option UUID} {next : Option DeviceStatus} {u : Unit} (hi : item.id = ticket.itemId)
    (h : (applyResolution ticket item resolution newId next actorId).Runs ctx db u db') :
    ∃ rows, db'.deviceLog = db.deviceLog ++ rows ∧ (∀ l ∈ rows, l.occurredAt = ctx.txTime) ∧
      (resolution = .remoteResolved ∧ rows = [] ∨ resolution ≠ .remoteResolved ∧
        ∃ l rest, rows = l :: rest ∧ l.itemId = ticket.itemId ∧ rest.length ≤ 1 ∧
          ∀ l' ∈ rest, l'.itemId ≠ ticket.itemId) := by
  cases resolution with
  | remoteResolved =>
    simp only [applyResolution, runs_pure] at h
    obtain ⟨-, rfl⟩ := h
    exact ⟨[], (List.append_nil _).symm, by simp, .inl ⟨rfl, rfl⟩⟩
  | repairedInPlace =>
    obtain ⟨-, i', -, -, l, rfl, -, rfl⟩ := runs_repairInPlace.mp h
    exact ⟨[_], rfl, by simp [AppendArgs.written], .inr ⟨by simp, _, [], rfl, hi, by simp, by simp⟩⟩
  | swapped =>
    simp only [applyResolution, runs_bind, runs_orRaise] at h
    obtain ⟨n, db, ⟨rfl, rfl⟩, s, db, ⟨rfl, rfl⟩, h⟩ := h
    obtain ⟨hne, p, -, i, hn, -, -, r, -, r', -, -, db₁, rfl, o', -, -, db₂, rfl, n', -, -, l, rfl, -, l', rfl, -,
      rfl⟩ := runs_swap.mp h
    have hnid : i.id = n := Table.get?_key hn
    refine ⟨[_, _], (List.append_assoc _ [_] [_]), by simp [AppendArgs.written],
      .inr ⟨by simp, _, [_], rfl, hi, by simp, fun l hl => ?_⟩⟩
    rw [List.mem_singleton.mp hl]
    exact fun he => hne (hnid.symm.trans (he.trans hi.symm))
  | markedLost =>
    obtain ⟨p, -, r, -, i', -, -, r', -, -, l, rfl, -, rfl⟩ := runs_markLost.mp h
    exact ⟨[_], rfl, by simp [AppendArgs.written], .inr ⟨by simp, _, [], rfl, hi, by simp, by simp⟩⟩

theorem resolve_logsTwice_iff {t : SupportRequest} {resolution : SupportResolution} {note : Option String}
    {newId : Option UUID} {next : Option DeviceStatus} (ht : db.supportRequests.get? ticketId = some t)
    (h : (resolve ticketId resolution note newId next actorId).Runs ctx db row db') :
    (Op.resolve ticketId resolution note newId next actorId).LogsTwice d db ↔
      resolution ≠ .remoteResolved ∧ t.itemId = d := by
  obtain ⟨x, hx, hopen, i, hi, _, db₁, happly, -⟩ := runs_resolve.mp h
  obtain rfl := Option.some.inj (ht.symm.trans hx)
  have hid : i.id = t.itemId := Table.get?_key hi
  cases resolution with
  | remoteResolved => exact iff_of_false id fun htwice => htwice.1 rfl
  | repairedInPlace =>
    have hrepair := (runs_repairInPlace.mp happly).1
    simp [Op.LogsTwice, ht, hopen, hi, hrepair, hid]
  | swapped =>
    obtain ⟨o, n, hswaps, hticket, -⟩ := swaps_of_runs h
    have hitem : ∀ i n, db.Swaps ticketId newId i n → i.id = t.itemId := fun i n hswaps =>
      Option.some.inj (hswaps.ticketItem.1.symm.trans (Db.ticketItem_eq ht))
    refine ⟨fun ⟨i, n, hswaps, hd⟩ => ⟨nofun, (hitem i n hswaps).symm.trans hd⟩, fun hd => ?_⟩
    exact ⟨o, n, hswaps, (hitem o n hswaps).trans hd.2⟩
  | markedLost =>
    obtain ⟨p, hp, r, hr, -⟩ := runs_markLost.mp happly
    have htied : db.tiedRequest t = some r := bind_eq_some hp hr
    simp [Op.LogsTwice, ht, hopen, hi, htied, hid]

theorem resolve_stamps {resolution : SupportResolution} {note : Option String} {newId : Option UUID}
    {next : Option DeviceStatus} (h : (resolve ticketId resolution note newId next actorId).Runs ctx db row db') :
    Stamps ctx d ((Op.resolve ticketId resolution note newId next actorId).LogsTwice d db) db db' := by
  obtain ⟨t, ht, -, i, hi, _, db₁, happly, t', -, -, -, -, rfl⟩ := runs_resolve.mp h
  have hid : i.id = t.itemId := Table.get?_key hi
  obtain ⟨rows, hlog, htime, hrows⟩ := applyResolution_log hid happly
  have htwice : (Op.resolve ticketId resolution note newId next actorId).LogsTwice d db ↔
      resolution ≠ .remoteResolved ∧ t.itemId = d := resolve_logsTwice_iff ht h
  let last := (resolvedLog i.id t'.id actorId).written ctx
  have hlast : timeline d [last] = if t.itemId = d then [last] else [] :=
    timeline_of_eq fun l hl => (List.mem_singleton.mp hl ▸ hid : l.itemId = t.itemId)
  refine ⟨rows ++ [last], ?_, ?_, ?_⟩
  · rw [← List.append_assoc, ← hlog]
    rfl
  · intro l hl
    rcases List.mem_append.mp hl with hl | hl
    · exact htime l hl
    · exact List.mem_singleton.mp hl ▸ rfl
  · rw [htwice, timeline_append, hlast, List.length_append]
    rcases hrows with ⟨rfl, rfl⟩ | ⟨hresolution, l, rest, rfl, hitem, hlength, hother⟩
    · simp only [timeline, List.filter_nil, List.length_nil, ne_eq, not_true_eq_false, false_and, iff_false]
      split <;> simp
    · by_cases hd : t.itemId = d
      · have hl : timeline d (l :: rest) = l :: timeline d rest := List.filter_cons_of_pos (by simp [hitem, hd])
        simp [hl, hd, hresolution]
      · have hl : timeline d (l :: rest) = timeline d rest := List.filter_cons_of_neg (by simp [hitem, hd])
        have hle : (timeline d rest).length ≤ rest.length := timeline_length_le
        simp only [hl, hd, if_false, List.length_nil, and_false, iff_false]
        omega

theorem start_stamps (h : (start ticketId actorId).Runs ctx db row db') : Stamps ctx d False db db' := by
  obtain ⟨t, -, -, t', -, -, ⟨_, hrepair⟩, -⟩ := runs_start.mp h
  rcases runs_startRepair.mp hrepair with ⟨-, rfl⟩ | ⟨-, i, -, i', -, -, l, -, -, rfl⟩
  · exact .none rfl
  · exact .one rfl

end SupportService

theorem InventoryService.editItem_stamps {itemId actorId : UUID} {updates : ItemUpdates} {row : Item}
    (h : (editItem itemId updates actorId).Runs ctx db row db') : Stamps ctx d False db db' := by
  obtain ⟨i, -, -, i', -, -, ⟨_, hlog⟩, -⟩ := runs_editItem.mp h
  rcases runs_logChanges.mp hlog with ⟨-, rfl⟩ | ⟨-, -, rfl⟩
  · exact .none rfl
  · exact .one rfl

/-- **What a call appends.** -/
theorem Op.stamps {op : Op} (h : op.run.Runs ctx db () db') : Stamps ctx d (op.LogsTwice d db) db db' := by
  by_cases hleaves : op.leavesItems = true
  · have hnone : Stamps ctx d False db db' := .none (Op.items_of_leavesItems hleaves h).2
    cases op <;> first | exact hnone | exact nomatch hleaves
  cases op <;> obtain ⟨row, h⟩ := runs_discard.mp h
  case createItem =>
    obtain ⟨-, -, -, i, -, -, -, -, rfl⟩ := InventoryService.runs_createItem.mp h
    exact .one rfl
  case editItem => exact InventoryService.editItem_stamps h
  case changeStatus =>
    obtain ⟨i, -, i', -, -, l, -, -, -, rfl⟩ := InventoryService.runs_changeStatus.mp h
    exact .one rfl
  case assign =>
    obtain ⟨r, -, -, i, -, -, -, -, r', -, -, i', -, -, -, -, rfl⟩ := AssignmentService.runs_assign.mp h
    exact .one rfl
  case directAssign =>
    obtain ⟨i, -, -, -, -, u, -, -, r', -, -, -, i', -, -, -, -, rfl⟩ := AssignmentService.runs_directAssign.mp h
    exact .one rfl
  case ship =>
    obtain ⟨r, -, -, i, -, -, r', -, -, i', -, -, l, -, -, -, rfl⟩ := ShippingService.runs_ship.mp h
    exact .one rfl
  case confirmDelivery =>
    obtain ⟨r, -, i, -, -, r', -, -, i', -, -, l, -, -, -, rfl⟩ := ShippingService.runs_confirmDelivery.mp h
    exact .one rfl
  case completeReturn => exact ShippingService.completeReturn_stamps h
  case start => exact SupportService.start_stamps h
  case resolve => exact SupportService.resolve_stamps h
  case approveExtension =>
    obtain ⟨x, -, -, -, r, -, r', -, -, x', -, -, _, -, l, -, -, -, rfl⟩ := ExtensionService.runs_approve.mp h
    exact .one rfl
  case rejectExtension =>
    obtain ⟨x, -, -, r, -, x', -, -, _, -, l, -, -, -, rfl⟩ := ExtensionService.runs_reject.mp h
    exact .one rfl
  all_goals exact absurd rfl hleaves

theorem Db.Stamped.of_commits (hstamped : db.Stamped d) (hafter : e.Sequential db) (h : e.Commits db db') :
    db'.Stamped d ↔ e.LogsOnce d db := by
  cases h with
  | service h => exact (Op.stamps h).stamped_iff hstamped hafter
  | portal h =>
    have hlog := (PortalStep.frame h).1
    unfold Db.Stamped at hstamped ⊢
    rw [hlog]
    exact iff_of_true hstamped trivial

/-! ### Runs -/

/-- **The timeline is in order**, in every state of a run whose transactions start one after the other and append
no two rows of the device; the next event keeps it in order exactly if it does not either. -/
theorem timelineInOrder_of_run (h : db.TimelineInOrder d)
    (run : Run Step (fun db e => e.Sequential db ∧ e.LogsOnce d db) db db') :
    db'.TimelineInOrder d ∧ ∀ (e : Event) (db'' : Db), e.Sequential db' → e.Commits db' db'' →
      (db''.TimelineInOrder d ↔ e.LogsOnce d db') := by
  simp only [timelineInOrder_iff] at h ⊢
  exact (exact_of_run (I := fun _ => True) (P := fun db => db.Stamped d) (fun h => h) (fun _ _ _ => trivial)
    (fun _ hafter hcommits hstamped => hstamped.of_commits hafter hcommits) trivial h run).2

/-- Laptop 1 is handed out. -/
theorem timelineInOrder_of_run_assign :
    (Sample.after [Sample.call (.assign 1 1 0 10 false 9)]).TimelineInOrder 1 :=
  (timelineInOrder_of_run (timelineInOrder_iff.mpr (by decide : Sample.store.Stamped 1))
    (.step .refl (Sample.call (.assign 1 1 0 10 false 9)) ⟨by decide, id⟩ rfl)).1

/-- Laptop 2 comes back: nothing tells that it was received before its assignment was completed. -/
theorem completeReturn_not_timelineInOrder :
    Sample.store.TimelineInOrder 2 ∧ (Sample.call (.completeReturn 2 .available 9)).Admitted ∧
      (Sample.call (.completeReturn 2 .available 9)).Sequential Sample.store ∧
      ¬ (Sample.after [Sample.call (.completeReturn 2 .available 9)]).TimelineInOrder 2 := by
  simp only [timelineInOrder_iff]
  decide

end AssetPilot
