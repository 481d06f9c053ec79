import AssetPilot.Lib.Replay
import AssetPilot.Invariants.Ownership

/-!
# The timeline of a device replays to its status

Every operation that changes the status of an item appends a row with the old and the new status, except
`_swap`, whose two rows carry neither. `Logged` says of a write that the rows it appends replay from the
old status of a device to the new one; it composes, so each operation is a chain of logged writes.
-/

namespace AssetPilot

open Relational System Txn Replay
open SQLAlchemyRepository (flushed)
open DeviceLogService (AppendArgs)

variable {ctx : Ctx} {db db' db'' : Db} {d itemId requestId actorId : UUID}

/-- Walk the rows from a status. -/
abbrev replayed : String → List DeviceLog → Option String := replay DeviceLog.fromValue DeviceLog.toValue

/-- The row carries neither a `from_value` nor a `to_value`. -/
abbrev DeviceLog.Silent : DeviceLog → Prop := Replay.Silent DeviceLog.fromValue DeviceLog.toValue

/-- The rows of one device, in the order in which they were appended. -/
def timeline (d : UUID) (rows : List DeviceLog) : List DeviceLog := rows.filter fun l => l.itemId = d

/-- The status that the timeline replays to, starting at the `to_value` of the `device_created` row. -/
def Db.replayedStatus (db : Db) (d : UUID) : Option String :=
  match timeline d db.deviceLog with
  | [] => none
  | created :: rest =>
    if created.eventType = .deviceCreated then created.toValue.bind fun s => replayed s rest else none

/-- The timeline of `d` replays to its status. -/
def Db.Replays (db : Db) (d : UUID) : Prop :=
  ∃ i ∈ db.items.get? d, db.replayedStatus d = some i.status.value

instance (db : Db) (d : UUID) : Decidable (db.Replays d) := inferInstanceAs (Decidable (∃ i ∈ _, _))

/-- The rows that were appended between `db` and `db'` replay from the old status of `d` to the new. -/
def Logged (d : UUID) (db db' : Db) : Prop :=
  ∃ rows, db'.deviceLog = db.deviceLog ++ rows ∧
    ∀ i, db.items.get? d = some i → ∃ i', db'.items.get? d = some i' ∧
      replayed i.status.value (timeline d rows) = some i'.status.value

/-! ### Logged writes -/

theorem timeline_append (d : UUID) (xs ys : List DeviceLog) :
    timeline d (xs ++ ys) = timeline d xs ++ timeline d ys := List.filter_append xs ys

theorem timeline_of_ne {rows : List DeviceLog} (h : ∀ l ∈ rows, l.itemId ≠ d) : timeline d rows = [] :=
  List.filter_eq_nil_iff.mpr fun l hl => by simpa using h l hl

theorem Logged.trans (h₁ : Logged d db db') (h₂ : Logged d db' db'') : Logged d db db'' := by
  obtain ⟨rows₁, hrows₁, h₁⟩ := h₁
  obtain ⟨rows₂, hrows₂, h₂⟩ := h₂
  refine ⟨rows₁ ++ rows₂, by rw [hrows₂, hrows₁, List.append_assoc], fun i hi => ?_⟩
  obtain ⟨i₁, hi₁, hr₁⟩ := h₁ i hi
  obtain ⟨i₂, hi₂, hr₂⟩ := h₂ i₁ hi₁
  refine ⟨i₂, hi₂, ?_⟩
  rw [timeline_append]
  exact (replay_append _ hr₁).trans hr₂

theorem Logged.of_silent {rows : List DeviceLog} (hitems : db'.items = db.items)
    (hlog : db'.deviceLog = db.deviceLog ++ rows) (hsilent : ∀ l ∈ rows, l.Silent) : Logged d db db' := by
  refine ⟨rows, hlog, fun i hi => ⟨i, hitems ▸ hi, ?_⟩⟩
  exact replay_silent fun l hl => hsilent l (List.mem_of_mem_filter hl)

theorem Logged.of_eq (hitems : db'.items = db.items) (hlog : db'.deviceLog = db.deviceLog) :
    Logged d db db' :=
  .of_silent hitems (by rw [hlog, List.append_nil]) (fun _ hl => absurd hl List.not_mem_nil)

theorem Logged.appendLog {l : DeviceLog} (hl : l.Silent) : Logged d db (db.appendLog l) :=
  .of_silent rfl rfl fun _ hx => List.mem_singleton.mp hx ▸ hl

theorem Logged.setItem {i i' : Item} (hi : db.items.get? itemId = some i) (hid : i'.id = itemId)
    (hstatus : i'.status = i.status) : Logged d db (db.setItem i') := by
  refine ⟨[], (List.append_nil _).symm, fun x hx => ?_⟩
  by_cases hd : d = itemId
  · subst hd hid
    obtain rfl := Option.some.inj (hi.symm.trans hx)
    refine ⟨i', Table.get?_set_self hi rfl, ?_⟩
    rw [hstatus]
    rfl
  · exact ⟨x, (Table.get?_set_of_ne (show d ≠ i'.id from hid ▸ hd)).trans hx, rfl⟩

theorem Logged.setOther {i' : Item} (hne : i'.id ≠ d) : Logged d db (db.setItem i') := by
  refine ⟨[], (List.append_nil _).symm, fun x hx => ⟨x, ?_, rfl⟩⟩
  exact (Table.get?_set_of_ne hne.symm).trans hx

theorem Logged.create {i : Item} {l : DeviceLog} (hfresh : db.items.get? i.id = none)
    (hitem : l.itemId = i.id) : Logged d db ((db.addItem i).appendLog l) := by
  refine ⟨[l], rfl, fun x hx => ?_⟩
  have hne : d ≠ i.id := by
    rintro rfl
    exact absurd (hfresh.symm.trans hx) (Option.some_ne_none _).symm
  have hrows : timeline d [l] = [] := timeline_of_ne fun y hy => by
    rw [List.mem_singleton.mp hy, hitem]
    exact hne.symm
  refine ⟨x, (Table.get?_insert hfresh d).trans ((if_neg hne).trans hx), ?_⟩
  rw [hrows]
  rfl

/-- **A change of status with its row**: the row carries the old and the new status. -/
theorem Logged.turn {i i' : Item} {l : DeviceLog} (hi : db.items.get? itemId = some i)
    (hid : i'.id = itemId) (hitem : l.itemId = itemId) (hfrom : l.fromValue = some i.status.value)
    (hto : l.toValue = some i'.status.value) : Logged d db ((db.setItem i').appendLog l) := by
  refine ⟨[l], rfl, fun x hx => ?_⟩
  by_cases hd : d = itemId
  · subst hd hid
    obtain rfl := Option.some.inj (hi.symm.trans hx)
    refine ⟨i', Table.get?_set_self hi rfl, ?_⟩
    have hrows : timeline i'.id [l] = [l] := List.filter_eq_self.mpr fun y hy => by
      rw [List.mem_singleton.mp hy]
      exact decide_eq_true hitem
    rw [hrows]
    exact replay_cons_change [] hfrom hto
  · have hrows : timeline d [l] = [] := timeline_of_ne fun y hy => by
      rw [List.mem_singleton.mp hy, hitem]
      exact fun h => hd h.symm
    refine ⟨x, (Table.get?_set_of_ne (show d ≠ i'.id from hid ▸ hd)).trans hx, ?_⟩
    rw [hrows]
    rfl

theorem Logged.setRequest_turn {r' : Request} {i i' : Item} {l : DeviceLog}
    (hi : db.items.get? itemId = some i) (hid : i'.id = itemId) (hitem : l.itemId = itemId)
    (hfrom : l.fromValue = some i.status.value) (hto : l.toValue = some i'.status.value) :
    Logged d db (((db.setRequest r').setItem i').appendLog l) := by
  have hrequest : Logged d db (db.setRequest r') := .of_eq rfl rfl
  have hi₁ : (db.setRequest r').items.get? itemId = some i := hi
  exact hrequest.trans (.turn hi₁ hid hitem hfrom hto)

theorem Db.Replays.logged (h : db.Replays d) (hlogged : Logged d db db') : db'.Replays d := by
  obtain ⟨i, hi, hstatus⟩ := h
  obtain ⟨rows, hrows, hlogged⟩ := hlogged
  obtain ⟨i', hi', hreplayed⟩ := hlogged i hi
  refine ⟨i', hi', ?_⟩
  unfold Db.replayedStatus at hstatus ⊢
  rw [hrows, timeline_append]
  cases htimeline : timeline d db.deviceLog with
  | nil =>
    rw [htimeline] at hstatus
    exact absurd hstatus (Option.some_ne_none _).symm
  | cons created rest =>
    rw [htimeline] at hstatus
    dsimp only at hstatus
    rw [List.cons_append]
    dsimp only
    split at hstatus
    · next hcreated =>
      obtain ⟨s, hs, hrest⟩ := Option.bind_eq_some_iff.mp hstatus
      rw [if_pos hcreated, hs, Option.bind_some]
      exact (replay_append _ hrest).trans hreplayed
    · exact absurd hstatus (Option.some_ne_none _).symm

/-! ### One event -/

/-- The call is no swap that hands out `d`, nor one that takes `d` back in another status than it has. -/
def Op.KeepsTimeline (d : UUID) (db : Db) : Op → Prop
  | .resolve ticketId .swapped _ swappedToItemId oldItemNextStatus _ =>
      ∀ t ∈ db.supportRequests.get? ticketId, t.status ≠ .resolved →
        ∀ i ∈ db.items.get? t.itemId, ∀ n ∈ swappedToItemId.bind db.items.get?, SwapTarget i n →
          n.id ≠ d ∧ (i.id = d → ∀ s ∈ oldItemNextStatus, s = i.status)
  | _ => True

/-- The same, with no status of `d` written outside the services: its holder does not send it back. -/
def Event.KeepsTimeline (d : UUID) (db : Db) : Event → Prop
  | .service _ op => op.KeepsTimeline d db
  | .portal _ (.initiateReturn requestId _ _) => ∀ r ∈ db.requests.get? requestId,
      r.assignedItemId ≠ some d
  | .portal _ _ => True

theorem ShippingService.TicketsClosed.logged {ts : List SupportRequest}
    (h : TicketsClosed ctx itemId ts db db') : Logged d db db' := by
  refine .of_silent h.items h.deviceLog fun l hl => ?_
  obtain ⟨t, -, rfl⟩ := List.mem_map.mp hl
  exact ⟨rfl, rfl⟩

theorem ShippingService.completeReturn_logged {next : DeviceStatus} {row : Request}
    (h : (completeReturn requestId next actorId).Runs ctx db row db') : Logged d db db' := by
  obtain ⟨r, hr, i, ⟨e, he, hi⟩, hstatus, r', hr', -, i', hi', -, l, rfl, -, l', rfl, -, ⟨_, hclose⟩, -⟩ :=
    runs_completeReturn.mp h
  have hiid : i'.id = e := hi' ▸ Table.get?_key hi
  obtain ⟨ts, -, hclosed⟩ := runs_autoCloseOpenSupport hclose
  refine Logged.trans ?_ hclosed.logged
  refine Logged.trans ?_ (.appendLog ⟨rfl, rfl⟩)
  exact .setRequest_turn hi hiid hiid rfl (hi' ▸ rfl)

namespace SupportService

variable {ticketId : UUID} {row : SupportRequest}

theorem start_logged (h : (start ticketId actorId).Runs ctx db row db') : Logged d db db' := by
  obtain ⟨t, -, -, t', -, -, ⟨_, hrepair⟩, -⟩ := runs_start.mp h
  have hticket : Logged d db (db.setSupportRequest t') := .of_eq rfl rfl
  rcases runs_startRepair.mp hrepair with ⟨-, rfl⟩ | ⟨-, i, hi, i', hi', -, l, rfl, -, rfl⟩
  · exact hticket
  · have hiid : i'.id = t'.itemId := hi' ▸ Table.get?_key hi
    exact hticket.trans (.turn hi hiid (Table.get?_key hi) rfl (hi' ▸ rfl))

/-- The swap logs nothing about the statuses, so it must not change the status of `d`. -/
theorem swap_logged {ticket : SupportRequest} {item : Item} {newId : UUID} {next : DeviceStatus} {u : Unit}
    (hi : db.items.get? ticket.itemId = some item)
    (hkeeps : ∀ n, db.items.get? newId = some n → SwapTarget item n →
      n.id ≠ d ∧ (item.id = d → next = item.status))
    (h : (swap ticket item newId next actorId).Runs ctx db u db') : Logged d db db' := by
  obtain ⟨hne, p, hp, n, hn, hcategory, havail, r, hr, r', hr', -, db₁, rfl, o', ho', -, db₂, rfl, n', hn',
    -, l, rfl, -, l', rfl, -, rfl⟩ := runs_swap.mp h
  have hnid : n.id = newId := Table.get?_key hn
  have hoid : o'.id = item.id := ho' ▸ rfl
  have hnid' : n'.id = n.id := hn' ▸ rfl
  have hkey : item.id = ticket.itemId := Table.get?_key hi
  have hstored : db.items.get? o'.id = some item := (hoid.trans hkey).symm ▸ hi
  obtain ⟨hnew, hold⟩ := hkeeps n hn ⟨hnid ▸ hne, hcategory, havail⟩
  have hswap : Logged d db (((db.setRequest r').setItem o').setItem n') := by
    refine ⟨[], (List.append_nil _).symm, fun x hx => ?_⟩
    have hget : (((db.setRequest r').setItem o').setItem n').items.get? d =
        if d = o'.id then some o' else db.items.get? d :=
      (Table.get?_set_set (show db.items.get? o'.id = some item from hstored)
        (show db.items.get? n'.id = some n from hnid' ▸ hnid ▸ hn)
        (show n'.id ≠ o'.id from hnid' ▸ hnid ▸ hoid ▸ hne) d).trans
        (if_neg (show d ≠ n'.id from hnid' ▸ hnew.symm))
    by_cases hd : item.id = d
    · obtain rfl : item = x := Option.some.inj (hi.symm.trans ((hkey.symm.trans hd) ▸ hx))
      have hstatus : o'.status = item.status := (ho' ▸ rfl : o'.status = next).trans (hold hd)
      refine ⟨o', hget.trans (if_pos (hoid.trans hd).symm), ?_⟩
      rw [hstatus]
      rfl
    · exact ⟨x, hget.trans ((if_neg fun he => hd (hoid.symm.trans he.symm)).trans hx), rfl⟩
  exact (hswap.trans (.appendLog ⟨rfl, rfl⟩)).trans (.appendLog ⟨rfl, rfl⟩)

theorem resolve_logged {resolution : SupportResolution} {note : Option String} {newId : Option UUID}
    {next : Option DeviceStatus}
    (hkeeps : (Op.resolve ticketId resolution note newId next actorId).KeepsTimeline d db)
    (h : (resolve ticketId resolution note newId next actorId).Runs ctx db row db') : Logged d db db' := by
  obtain ⟨t, ht, hopen, i, hi, _, db₁, happly, t', -, -, -, -, rfl⟩ := runs_resolve.mp h
  have happly : Logged d db db₁ := by
    cases resolution with
    | remoteResolved =>
      simp only [applyResolution, runs_pure] at happly
      obtain ⟨-, rfl⟩ := happly
      exact .of_eq rfl rfl
    | repairedInPlace =>
      obtain ⟨hrepair, i', hi', -, l, rfl, -, rfl⟩ := runs_repairInPlace.mp happly
      have hiid : i'.id = t.itemId := hi' ▸ Table.get?_key hi
      exact .turn hi hiid (Table.get?_key hi) (hrepair ▸ rfl) (hi' ▸ rfl)
    | swapped =>
      simp only [applyResolution, runs_bind, runs_orRaise] at happly
      obtain ⟨n, _, ⟨rfl, rfl⟩, s, _, ⟨rfl, rfl⟩, happly⟩ := happly
      refine swap_logged hi (fun m hm htarget => ?_) happly
      obtain ⟨hnew, hold⟩ := hkeeps t ht hopen i hi m hm htarget
      exact ⟨hnew, fun hid => hold hid s rfl⟩
    | markedLost =>
      obtain ⟨p, -, r, -, i', hi', -, r', -, -, l, rfl, -, rfl⟩ := runs_markLost.mp happly
      have hiid : i'.id = t.itemId := hi' ▸ Table.get?_key hi
      -- the request is written between the item and its row
      have hcomm : ((db.setItem i').setRequest r').appendLog =
          ((db.setRequest r').setItem i').appendLog := rfl
      rw [hcomm]
      exact .setRequest_turn hi hiid (Table.get?_key hi) rfl (hi' ▸ rfl)
  have hticket : Logged d db₁ (db₁.setSupportRequest t') := .of_eq rfl rfl
  exact (happly.trans hticket).trans (.appendLog ⟨rfl, rfl⟩)

end SupportService

theorem InventoryService.editItem_logged {updates : ItemUpdates} {row : Item}
    (h : (editItem itemId updates actorId).Runs ctx db row db') : Logged d db db' := by
  obtain ⟨i, hi, -, i', hi', -, ⟨_, hlog⟩, -⟩ := runs_editItem.mp h
  have hiid : i'.id = itemId := hi' ▸ Table.get?_key hi
  have hitem : Logged d db (db.setItem i') := .setItem hi hiid (hi' ▸ rfl)
  rcases runs_logChanges.mp hlog with ⟨-, rfl⟩ | ⟨-, -, rfl⟩
  · exact hitem
  · exact hitem.trans (.appendLog ⟨rfl, rfl⟩)

theorem AssignmentService.assign_logged {f t : Datetime} {wfh : Bool} {row : Request}
    (h : (assign requestId itemId f t wfh actorId).Runs ctx db row db') : Logged d db db' := by
  obtain ⟨r, hr, -, i, hi, havail, -, -, r', -, -, i', hi', -, -, -, rfl⟩ := runs_assign.mp h
  have hiid : i'.id = itemId := hi' ▸ Table.get?_key hi
  exact .setRequest_turn hi hiid (Table.get?_key hi) (havail ▸ rfl) (hi' ▸ rfl)

theorem AssignmentService.directAssign_logged {employeeId : UUID} {f t : Datetime} {row : Request}
    (h : (directAssign itemId employeeId f t actorId).Runs ctx db row db') : Logged d db db' := by
  obtain ⟨i, hi, -, havail, -, u, -, -, r', -, -, -, i', hi', -, -, -, rfl⟩ := runs_directAssign.mp h
  have hiid : i'.id = itemId := hi' ▸ Table.get?_key hi
  have hi₁ : (db.addRequest r').items.get? itemId = some i := hi
  have hrequest : Logged d db (db.addRequest r') := .of_eq rfl rfl
  exact hrequest.trans (.turn hi₁ hiid (Table.get?_key hi) (havail ▸ rfl) (hi' ▸ rfl))

theorem Op.KeepsTimeline.logged {op : Op} (hkeeps : op.KeepsTimeline d db)
    (h : op.run.Runs ctx db () db') : Logged d db db' := by
  by_cases hleaves : op.leavesItems = true
  · obtain ⟨hitems, hlog⟩ := Op.items_of_leavesItems hleaves h
    exact .of_eq hitems hlog
  cases op <;> obtain ⟨row, h⟩ := runs_discard.mp h
  case createItem =>
    obtain ⟨-, -, hfresh, i, hi, -, -, -, rfl⟩ := InventoryService.runs_createItem.mp h
    exact .create (hi ▸ hfresh) rfl
  case editItem => exact InventoryService.editItem_logged h
  case changeStatus =>
    obtain ⟨i, hi, i', hi', -, l, rfl, -, -, rfl⟩ := InventoryService.runs_changeStatus.mp h
    have hiid : i'.id = i.id := hi' ▸ rfl
    exact .turn hi (hiid.trans (Table.get?_key hi)) (hiid.trans (Table.get?_key hi)) rfl (hi' ▸ rfl)
  case assign => exact AssignmentService.assign_logged h
  case directAssign => exact AssignmentService.directAssign_logged h
  case ship =>
    obtain ⟨r, -, -, i, ⟨e, -, hi⟩, hstatus, r', -, -, i', hi', -, l, rfl, -, -, rfl⟩ :=
      ShippingService.runs_ship.mp h
    have hiid : i'.id = e := hi' ▸ Table.get?_key hi
    exact .setRequest_turn hi hiid (Table.get?_key hi) (hstatus ▸ rfl) (hi' ▸ rfl)
  case confirmDelivery =>
    obtain ⟨r, -, i, ⟨e, -, hi⟩, hstatus, r', -, -, i', hi', -, l, rfl, -, -, rfl⟩ :=
      ShippingService.runs_confirmDelivery.mp h
    have hiid : i'.id = e := hi' ▸ Table.get?_key hi
    exact .setRequest_turn hi hiid (Table.get?_key hi) (hstatus ▸ rfl) (hi' ▸ rfl)
  case completeReturn => exact ShippingService.completeReturn_logged h
  case start => exact SupportService.start_logged h
  case resolve => exact SupportService.resolve_logged hkeeps h
  case approveExtension =>
    obtain ⟨x, -, -, -, r, -, r', -, -, x', -, -, _, -, l, rfl, -, -, rfl⟩ :=
      ExtensionService.runs_approve.mp h
    have hrows : Logged d db ((db.setRequest r').setExtensionRequest x') := .of_eq rfl rfl
    exact hrows.trans (.appendLog ⟨rfl, rfl⟩)
  case rejectExtension =>
    obtain ⟨x, -, -, r, -, x', -, -, _, -, l, rfl, -, -, rfl⟩ := ExtensionService.runs_reject.mp h
    have hrows : Logged d db (db.setExtensionRequest x') := .of_eq rfl rfl
    exact hrows.trans (.appendLog ⟨rfl, rfl⟩)
  all_goals exact absurd rfl hleaves

theorem PortalStep.logged {step : PortalStep}
    (hkeeps : Event.KeepsTimeline d db (.portal ctx step)) (h : step.run.Runs ctx db () db') :
    Logged d db db' := by
  obtain ⟨hlog, hitems⟩ := step.frame h
  cases step with
  | initiateReturn p url now =>
    obtain ⟨r, hr, i, ⟨e, he, hi⟩, -, r', -, -, i', hi', -, rfl⟩ := runs_initiateReturn.mp h
    have hiid : i'.id = e := hi' ▸ Table.get?_key hi
    have hne : i'.id ≠ d := by
      rintro rfl
      exact hkeeps r hr (hiid ▸ he)
    have hrequest : Logged d db (db.setRequest r') := .of_eq rfl rfl
    exact hrequest.trans (.setOther hne)
  | _ => exact .of_eq (hitems nofun) hlog

/-! ### Runs -/

/-- The log only has rows of stored items, as its foreign key demands. -/
def Db.LogIntegral (db : Db) : Prop := ∀ l ∈ db.deviceLog, db.items.get? l.itemId ≠ none

instance (db : Db) : Decidable db.LogIntegral := inferInstanceAs (Decidable (∀ l ∈ _, _))

theorem createItem_replays {name serialNo : String} {categoryId : UUID} {ownerType : OwnerType}
    {clientName : Option String} {date : Option Date} {row : Item} (hlog : db.LogIntegral)
    (h : (InventoryService.createItem name serialNo categoryId ownerType clientName date actorId).Runs
      ctx db row db') : db'.Replays row.id := by
  obtain ⟨-, -, hfresh, i, hi, -, -, rfl, rfl⟩ := InventoryService.runs_createItem.mp h
  have hfresh' : db.items.get? row.id = none := hi ▸ hfresh
  have hold : timeline row.id db.deviceLog = [] := timeline_of_ne fun l hl he => hlog l hl (he ▸ hfresh')
  refine ⟨row, (Table.get?_insert hfresh' row.id).trans (if_pos rfl), ?_⟩
  have hrows : timeline row.id (db.deviceLog ++ [(InventoryService.createdLog row.id actorId).written ctx]) =
      [(InventoryService.createdLog row.id actorId).written ctx] := by
    rw [timeline_append, hold, List.nil_append]
    exact List.filter_eq_self.mpr fun y hy => by
      rw [List.mem_singleton.mp hy]
      exact decide_eq_true rfl
  have hstatus : row.status = .available := hi ▸ rfl
  unfold Db.replayedStatus
  rw [show ((db.addItem row).appendLog ((InventoryService.createdLog row.id actorId).written ctx)).deviceLog =
    db.deviceLog ++ [(InventoryService.createdLog row.id actorId).written ctx] from rfl, hrows, hstatus]
  rfl

/-- **The timeline of a device replays to its status**, in every state of a run after its creation that
swaps it neither in nor, in another status, out. -/
theorem replays_of_run {name serialNo : String} {categoryId : UUID} {ownerType : OwnerType}
    {clientName : Option String} {date : Option Date} {row : Item} (hlog : db.LogIntegral)
    (hcreate : (InventoryService.createItem name serialNo categoryId ownerType clientName date actorId).Runs
      ctx db row db')
    (run : Run Step (fun db e => e.KeepsTimeline row.id db) db' db'') : db''.Replays row.id := by
  refine run.inv (P := fun s => s.Replays row.id) (fun s e s' hs hkeeps hstep => ?_)
    (createItem_replays hlog hcreate)
  rcases hstep.cases with rfl | hcommits
  · exact hs
  · cases hcommits with
    | service h => exact hs.logged (Op.KeepsTimeline.logged hkeeps h)
    | portal h => exact hs.logged (PortalStep.logged hkeeps h)

/-- A new laptop, 100. -/
def Sample.create : Op := .createItem "Laptop" "S-3" 1 .company none none 9

/-- The new laptop is handed out and comes back. -/
theorem replays_of_run_return :
    (Sample.after [Sample.call Sample.create, Sample.call (.assign 1 100 0 10 false 9),
      Sample.call (.completeReturn 1 .underRepair 9)]).Replays 100 :=
  replays_of_run (by decide : Sample.store.LogIntegral) (show (InventoryService.createItem "Laptop" "S-3" 1
      .company none none 9).Runs Sample.ctx Sample.store _ _ from rfl)
    (.step (.step .refl (Sample.call (.assign 1 100 0 10 false 9)) trivial rfl)
      (Sample.call (.completeReturn 1 .underRepair 9)) trivial rfl)

/-- Employee 2 gets the new laptop for laptop 2. Its timeline does not say that it was assigned. -/
theorem swap_not_replays :
    Sample.store.LogIntegral ∧ (Sample.call Sample.create).Admitted ∧
      (Sample.call (.resolve 1 .swapped none (some 100) (some .underRepair) 9)).Admitted ∧
      (Sample.after [Sample.call Sample.create]).Replays 100 ∧
      ¬ (Sample.after [Sample.call Sample.create,
        Sample.call (.resolve 1 .swapped none (some 100) (some .underRepair) 9)]).Replays 100 := by
  decide

end AssetPilot
