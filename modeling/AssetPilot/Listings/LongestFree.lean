import AssetPilot.Invariants.Edits
import AssetPilot.Invariants.Ownership
import AssetPilot.Lib.OrderBy

/-!
# Longest free first

Suggestions are sorted by `updated_at`, which stands for the time at which a device became available. It does so
as long as the row of an available device is left alone: an edit writes it, and so does a swap that releases a
device which is available already. A history variable keeps the times at which devices became available.
-/

namespace AssetPilot

open Relational System Txn InventoryService
open AssignmentService (suggestedDevices)
open ItemRepository (SuggestedDeviceRow suggestedLE)

variable {ctx : Ctx} {db db' : Db} {e : Event} {times new : List (UUID × Datetime)} {d : UUID}

/-- When the device last became available, by the times that were recorded one after the other. -/
def freeSince (times : List (UUID × Datetime)) (d : UUID) : Option Datetime := times.reverse.lookup d

/-- The devices that the event makes available, created ones among them. -/
def Event.freed (db : Db) (e : Event) : List (UUID × Datetime) :=
  ((e.exec db).items.rows.filter fun i => i.status = .available ∧
    ¬ ∃ j ∈ db.items.get? i.id, j.status = .available).map fun i => (i.id, e.txTime)

/-- The number of requests that have the device booked. -/
def Db.bookings (db : Db) (d : UUID) : Nat := db.requests.rows.countP fun r => r.IsBookingFor d

/-- Device `c` has fewer bookings, or as many, and has been free for at least as long. -/
def Db.ComesFirst (db : Db) (times : List (UUID × Datetime)) (c d : UUID) : Prop :=
  db.bookings c < db.bookings d ∨
    db.bookings c = db.bookings d ∧ ∃ s ∈ freeSince times c, ∃ t ∈ freeSince times d, s ≤ t

/-- The suggestions for every request have the fewest bookings and then the longest free first, whatever the answer
to `ORDER BY`. -/
structure LongestFreeFirst (times : List (UUID × Datetime)) (db : Db) : Prop where
  listed : ∀ ctx requestId rows, (suggestedDevices requestId).Runs ctx db rows db →
    rows.Pairwise fun x y => db.ComesFirst times x.item.id y.item.id
  ties : ∀ ctx requestId rows, (suggestedDevices requestId).Runs ctx db rows db →
    ∀ order : OrderBy suggestedLE, (order.sort rows).Pairwise fun x y => db.ComesFirst times x.item.id y.item.id

/-- The row of an available device was last written when the device became available. -/
def Db.UpdatedWhenFreed (db : Db) (times : List (UUID × Datetime)) : Prop :=
  ∀ i ∈ db.items.rows, i.status = .available → freeSince times i.id = some i.updatedAt

/-- An edit of an available device to a known category changes nothing, and a swap that passes its guards and makes
the old device available does not find it available and with an owner. -/
def Op.SparesFree (db : Db) : Op → Prop
  | .editItem itemId updates _ => db.categories.References updates.categoryId → ∀ i ∈ db.items.get? itemId,
      i.status = .available → updates.over i.editableFields = i.editableFields
  | .resolve ticketId .swapped _ newId next _ => next = some .available → ∀ i n, db.Swaps ticketId newId i n →
      i.status = .available → i.currentOwnerId = none
  | _ => True

def Event.SparesFree (db : Db) : Event → Prop
  | .service _ op => op.SparesFree db
  | .portal _ _ => True

/-- The transaction starts after every write of an item. -/
def Event.Later (db : Db) (e : Event) : Prop := ∀ i ∈ db.items.rows, i.updatedAt < e.txTime

instance (db : Db) (times : List (UUID × Datetime)) : Decidable (db.UpdatedWhenFreed times) :=
  inferInstanceAs (Decidable (∀ i ∈ _, _))
instance (db : Db) (e : Event) : Decidable (e.Later db) := inferInstanceAs (Decidable (∀ i ∈ _, _))

/-! ### The order of the suggestions -/

instance : Std.Total suggestedLE where
  total x y := by
    rcases lt_trichotomy x.activeBookingsCount y.activeBookingsCount with hlt | heq | hgt
    · exact .inl (.inl hlt)
    · exact (le_total x.item.updatedAt y.item.updatedAt).imp (fun hle => .inr ⟨heq, hle⟩)
        fun hle => .inr ⟨heq.symm, hle⟩
    · exact .inr (.inl hgt)

instance : IsTrans SuggestedDeviceRow suggestedLE where
  trans x y z hxy hyz := by
    rcases hxy with hxy | ⟨hxy, hle⟩ <;> rcases hyz with hyz | ⟨hyz, hle'⟩
    · exact .inl (hxy.trans hyz)
    · exact .inl (hyz ▸ hxy)
    · exact .inl (hxy ▸ hyz)
    · exact .inr ⟨hxy.trans hyz, hle.trans hle'⟩

theorem runs_suggestedDevices {requestId : UUID} {rows : List SuggestedDeviceRow}
    (h : (suggestedDevices requestId).Runs ctx db rows db') : rows.Pairwise suggestedLE ∧ ∀ x ∈ rows,
      x.item ∈ db.items.rows ∧ x.item.status = .available ∧ x.activeBookingsCount = db.bookings x.item.id := by
  simp only [suggestedDevices, ItemRepository.listSuggestedDevices, runs_bind,
    AssignmentService.runs_getRequestOr404, runs_get, runs_pure] at h
  obtain ⟨r, _, ⟨-, rfl⟩, _, _, ⟨rfl, rfl⟩, rfl, -⟩ := h
  refine ⟨List.pairwise_insertionSort suggestedLE _, fun x hx => ?_⟩
  simp only [List.mem_insertionSort, List.mem_filter, List.mem_filterMap, Option.map_eq_some_iff,
    decide_eq_true_eq] at hx
  obtain ⟨⟨i, hi, c, -, rfl⟩, -, havailable, -⟩ := hx
  exact ⟨hi, havailable, List.countP_eq_length_filter.symm⟩

/-- **While the rows tell when devices became free, the suggestions are in order.** -/
theorem Db.UpdatedWhenFreed.longestFreeFirst (h : db.UpdatedWhenFreed times) : LongestFreeFirst times db := by
  have hfirst : ∀ rows : List SuggestedDeviceRow, rows.Pairwise suggestedLE →
      (∀ x ∈ rows, x.item ∈ db.items.rows ∧ x.item.status = .available ∧
        x.activeBookingsCount = db.bookings x.item.id) →
      rows.Pairwise fun x y => db.ComesFirst times x.item.id y.item.id := by
    intro rows hsorted hrows
    refine hsorted.imp_of_mem fun {x y} hx hy hle => ?_
    obtain ⟨hx, hxfree, hxcount⟩ := hrows x hx
    obtain ⟨hy, hyfree, hycount⟩ := hrows y hy
    rcases hle with hfewer | ⟨hsame, htime⟩
    · exact .inl (hxcount ▸ hycount ▸ hfewer)
    · exact .inr ⟨hxcount ▸ hycount ▸ hsame, _, h _ hx hxfree, _, h _ hy hyfree, htime⟩
  refine ⟨fun ctx requestId rows hruns => ?_, fun ctx requestId rows hruns order => ?_⟩
  · obtain ⟨hsorted, hrows⟩ := runs_suggestedDevices hruns
    exact hfirst rows hsorted hrows
  · obtain ⟨-, hrows⟩ := runs_suggestedDevices hruns
    exact hfirst _ (order.sorted rows) fun x hx => hrows x (order.mem_sort.mp hx)

/-! ### The history -/

theorem freeSince_append_of_notMem (h : ∀ x ∈ new, x.1 ≠ d) : freeSince (times ++ new) d = freeSince times d := by
  have hnone : new.reverse.lookup d = none := by
    rw [List.lookup_eq_none_iff]
    intro x hx
    simpa using (h x (List.mem_reverse.mp hx)).symm
  rw [freeSince, List.reverse_append, List.lookup_append, hnone, Option.none_or, freeSince]

theorem freeSince_append_of_mem {t : Datetime} (htime : ∀ x ∈ new, x.2 = t) (h : ∃ x ∈ new, x.1 = d) :
    freeSince (times ++ new) d = some t := by
  obtain ⟨x, hx, rfl⟩ := h
  obtain ⟨s, hs⟩ : ∃ s, new.reverse.lookup x.1 = some s := by
    rw [← Option.ne_none_iff_exists', ne_eq, List.lookup_eq_none_iff, not_forall]
    exact ⟨x, fun hne => by simpa using hne (List.mem_reverse.mpr hx)⟩
  obtain ⟨l₁, l₂, hl, -⟩ := List.lookup_eq_some_iff.mp hs
  have hmem : (x.1, s) ∈ new := List.mem_reverse.mp (hl ▸ List.mem_append_right _ List.mem_cons_self)
  rw [freeSince, List.reverse_append, List.lookup_append, hs, Option.some_or, ← htime _ hmem]

theorem Event.mem_freed {t : Datetime} (hstep : Step db e db') : (d, t) ∈ e.freed db ↔ t = e.txTime ∧
    (∃ i ∈ db'.items.get? d, i.status = .available) ∧ ¬ ∃ j ∈ db.items.get? d, j.status = .available := by
  obtain rfl : e.exec db = db' := hstep
  simp only [Event.freed, List.mem_map, List.mem_filter, decide_eq_true_eq, Prod.mk.injEq]
  constructor
  · rintro ⟨i, ⟨hi, havailable, hnot⟩, rfl, rfl⟩
    exact ⟨rfl, ⟨i, Table.mem_iff_get?.mp hi, havailable⟩, hnot⟩
  · rintro ⟨rfl, ⟨i, hi, havailable⟩, hnot⟩
    obtain rfl : i.id = d := Table.get?_key hi
    exact ⟨i, ⟨Table.get?_mem hi, havailable, hnot⟩, rfl, rfl⟩

theorem freeSince_kept {i : Item} (hstep : Step db e db') (hi : db.items.get? d = some i)
    (havailable : i.status = .available) : freeSince (times ++ e.freed db) d = freeSince times d := by
  refine freeSince_append_of_notMem fun x hx he => ?_
  obtain ⟨k, t⟩ := x
  obtain rfl : k = d := he
  exact ((Event.mem_freed hstep).mp hx).2.2 ⟨i, hi, havailable⟩

theorem freeSince_freed {i : Item} (hstep : Step db e db') (hi : db'.items.get? d = some i)
    (havailable : i.status = .available) (hnot : ¬ ∃ j ∈ db.items.get? d, j.status = .available) :
    freeSince (times ++ e.freed db) d = some e.txTime := by
  refine freeSince_append_of_mem (fun x hx => ?_) ⟨(d, e.txTime), ?_, rfl⟩
  · exact ((Event.mem_freed hstep).mp hx).1
  · exact (Event.mem_freed hstep).mpr ⟨rfl, ⟨i, hi, havailable⟩, hnot⟩

/-! ### One event -/

/-- The event does not write the available devices that it keeps available. -/
def Event.KeepsFree (db : Db) (e : Event) : Prop :=
  ∀ i, db.items.get? i.id = some i → i.status = .available → (e.itemAfter db i).status = .available →
    ¬ e.RewritesItem db i

theorem Event.keepsFree_iff_same (hedit : ¬ e.EditsItem) : e.KeepsFree db ↔ ∀ i, db.items.get? i.id = some i →
    i.status = .available → (e.itemAfter db i).status = .available → e.itemAfter db i = i :=
  forall_congr' fun i => imp_congr_right fun _ => imp_congr_right fun _ => imp_congr_right fun _ =>
    (not_congr (Event.rewritesItem_iff hedit i)).trans not_not

theorem Event.rewritesItem_of_status {i : Item} (h : (e.itemAfter db i).status ≠ i.status) : e.RewritesItem db i := by
  by_cases hedit : e.EditsItem
  · refine absurd ?_ h
    cases e with
    | portal => exact hedit.elim
    | service ctx op =>
      cases op
      case editItem =>
        simp only [Event.itemAfter, Op.itemAfter]
        split <;> rfl
      all_goals exact hedit.elim
  · exact (Event.rewritesItem_iff hedit i).mpr fun hsame => h (congrArg Item.status hsame)

/-- **The rows go on telling when devices became free** if the event leaves the available ones. -/
theorem Db.UpdatedWhenFreed.step (h : db.UpdatedWhenFreed times) (hkeeps : e.KeepsFree db)
    (hcommits : e.Commits db db') (hstep : Step db e db') : db'.UpdatedWhenFreed (times ++ e.freed db) := by
  intro i' hi' havailable
  have hget : db'.items.get? i'.id = some i' := Table.mem_iff_get?.mp hi'
  cases hold : db.items.get? i'.id with
  | none =>
    obtain ⟨i, -, rfl⟩ := hcommits.timed.fresh _ i' hold hget
    refine freeSince_freed hstep hget havailable ?_
    rintro ⟨j, hj, -⟩
    exact Option.some_ne_none j (hj.symm.trans hold)
  | some i =>
    have hid : i.id = i'.id := Table.get?_key hold
    have hi : db.items.get? i.id = some i := hid ▸ hold
    have hafter := hcommits.timed.stored i hi
    rw [hid, hget] at hafter
    obtain rfl := Option.some.inj hafter
    by_cases hfree : i.status = .available
    · -- the row is left, with its time
      have hleft : ¬ e.RewritesItem db i := hkeeps i hi hfree havailable
      rw [freeSince_kept hstep hold hfree, ← hid, h i (Table.get?_mem hi) hfree, if_neg hleft]
    · -- the row is written, as the status differs
      have hwritten : e.RewritesItem db i := Event.rewritesItem_of_status fun hsame => hfree (hsame ▸ havailable)
      rw [if_pos hwritten]
      refine freeSince_freed hstep hget havailable ?_
      rintro ⟨j, hj, hjfree⟩
      obtain rfl := Option.some.inj (hold.symm.trans hj)
      exact hfree hjfree

/-- An event that writes an available device and keeps it available moves the time of its row. -/
theorem Db.UpdatedWhenFreed.keepsFree (h : db.UpdatedWhenFreed times) (hlater : e.Later db)
    (hcommits : e.Commits db db') (hstep : Step db e db') (h' : db'.UpdatedWhenFreed (times ++ e.freed db)) :
    e.KeepsFree db := by
  intro i hi hfree hafter hwritten
  have hstored := hcommits.timed.stored i hi
  rw [if_pos hwritten] at hstored
  have htime := h' _ (Table.get?_mem hstored) hafter
  rw [show ({ e.itemAfter db i with updatedAt := e.txTime } : Item).id = i.id from Event.itemAfter_id i,
    freeSince_kept hstep hi hfree, h i (Table.get?_mem hi) hfree] at htime
  have hlt := hlater i (Table.get?_mem hi)
  exact absurd (Option.some.inj htime) hlt.ne

theorem ite_eq_self_of_status {c : Prop} [Decidable c] {i j : Item} (hj : j.status ≠ .available)
    (h : (if c then j else i).status = .available) : (if c then j else i) = i := by
  split at h
  · exact absurd h hj
  · next hc => exact if_neg hc

theorem setStatus_self {i : Item} {s : DeviceStatus} (h : i.status = s) : i.setStatus s = i := by
  subst h
  rfl

theorem release_eq_self_iff {i : Item} (h : i.status = .available) :
    i.release .available = i ↔ i.currentOwnerId = none := by
  obtain ⟨id, name, serialNo, categoryId, ownerType, clientName, status, owner, date, qr, created, updated⟩ := i
  obtain rfl : status = .available := h
  simp [Item.release, eq_comm]

theorem SupportService.swap_keepsFree_iff {ticketId actorId : UUID} {note : Option String} {newId : Option UUID}
    {next : Option DeviceStatus} {row : SupportRequest}
    (h : (resolve ticketId .swapped note newId next actorId).Runs ctx db row db') :
    (Event.service ctx (.resolve ticketId .swapped note newId next actorId)).KeepsFree db ↔
      (Op.resolve ticketId .swapped note newId next actorId).SparesFree db := by
  obtain ⟨t, i, n, s, r, u, ht, hopen, hi, rfl, rfl, hn, htarget, htied, hr, -⟩ := swapped_request h
  have hne : n.id ≠ i.id := htarget.1
  have hswaps : db.Swaps ticketId (some n.id) i n := by
    refine ⟨t, ht, hopen, hi, hn, htarget, ?_⟩
    rw [htied, Option.bind_some, hr]
    exact Option.some_ne_none r
  have hid : i.id = t.itemId := Table.get?_key hi
  have hold : (Event.service ctx (.resolve ticketId .swapped note (some n.id) (some s) actorId)).itemAfter db i =
      i.release s := by
    simp only [Event.itemAfter, Op.itemAfter, Db.ticketItem_eq ht, hid, if_true]
    exact if_neg fun he => hne (hid.trans he).symm
  refine Iff.trans (Event.keepsFree_iff_same fun hedit => hedit) ?_
  constructor
  · rintro hkeeps hs x y hswaps' hfree
    obtain ⟨hitem, hx⟩ := hswaps'.ticketItem
    obtain rfl : i = x := by
      have hkey : t.itemId = x.id := Option.some.inj ((Db.ticketItem_eq ht).symm.trans hitem)
      exact Option.some.inj (hi.symm.trans (hkey ▸ hx))
    obtain rfl := Option.some.inj hs
    have hsame := hkeeps i (hid ▸ hi) hfree (by rw [hold]; rfl)
    exact (release_eq_self_iff hfree).mp (hold.symm.trans hsame)
  · intro hspares j hj hfree hafter
    simp only [Event.itemAfter, Op.itemAfter, Db.ticketItem_eq ht, some_eq_iff] at hafter ⊢
    by_cases hjn : j.id = n.id
    · rw [if_pos hjn] at hafter
      exact absurd hafter (of_decide_eq_false rfl)
    rw [if_neg hjn] at hafter ⊢
    by_cases hjo : j.id = t.itemId
    · obtain rfl := Option.some.inj (hi.symm.trans (hjo ▸ hj))
      rw [if_pos hjo] at hafter ⊢
      obtain rfl : s = .available := hafter
      exact (release_eq_self_iff hfree).mpr (hspares rfl i n hswaps hfree)
    · exact if_neg hjo

theorem Event.Commits.keepsFree_iff (h : e.Commits db db') : e.KeepsFree db ↔ e.SparesFree db := by
  by_cases hedit : e.EditsItem
  · cases h with
    | portal => exact hedit.elim
    | @service ctx op db' h =>
      cases op
      case editItem itemId updates actorId =>
        obtain ⟨row, h⟩ := runs_discard.mp h
        obtain ⟨-, -, hcategory, -⟩ := InventoryService.runs_editItem.mp h
        constructor
        · intro hkeeps _ i hi hfree
          obtain rfl : i.id = itemId := Table.get?_key hi
          have hafter : ((Event.service ctx (.editItem i.id updates actorId)).itemAfter db i).status = i.status := by
            simp only [Event.itemAfter, Op.itemAfter, if_true]
            rfl
          have hleft := hkeeps i hi hfree (hafter.trans hfree)
          by_contra hne
          exact hleft ⟨rfl, fun hsame => hne (congrArg Item.editableFields hsame)⟩
        · rintro hspares i hi hfree - ⟨rfl, hne⟩
          exact hne (editedItem_eq_self (hspares hcategory i hi hfree))
      all_goals exact hedit.elim
  rw [Event.keepsFree_iff_same hedit]
  cases h with
  | @portal ctx step db' h =>
    refine iff_of_true (fun i _ _ hafter => ?_) trivial
    cases step with
    | initiateReturn => exact ite_eq_self_of_status (of_decide_eq_false rfl) hafter
    | _ => rfl
  | @service ctx op db' h =>
    cases op
    case editItem => exact absurd trivial hedit
    case resolve ticketId resolution note newId next actorId =>
      cases resolution with
      | swapped =>
        obtain ⟨row, h⟩ := runs_discard.mp h
        exact (Event.keepsFree_iff_same hedit).symm.trans (SupportService.swap_keepsFree_iff h)
      | remoteResolved => exact iff_of_true (fun _ _ _ _ => rfl) trivial
      | repairedInPlace | markedLost =>
        exact iff_of_true (fun i _ _ hafter => ite_eq_self_of_status (of_decide_eq_false rfl) hafter) trivial
    case changeStatus itemId status note actorId =>
      refine iff_of_true (fun i _ hfree hafter => ?_) trivial
      simp only [Event.itemAfter, Op.itemAfter] at hafter ⊢
      split
      · next hid =>
        rw [if_pos hid] at hafter
        exact setStatus_self (hfree.trans hafter.symm)
      · rfl
    case completeReturn requestId next actorId =>
      obtain ⟨row, h⟩ := runs_discard.mp h
      obtain ⟨r, hr, x, ⟨k, hk, hx⟩, heligible, -⟩ := ShippingService.runs_completeReturn.mp h
      refine iff_of_true (fun i hi hfree _ => if_neg fun hdevice => ?_) trivial
      obtain rfl : k = i.id := Option.some.inj ((Db.deviceOf_eq hr hk).symm.trans hdevice)
      obtain rfl := Option.some.inj (hx.symm.trans hi)
      exact absurd heligible (hfree ▸ by decide)
    case assign | directAssign | ship | confirmDelivery | start =>
      exact iff_of_true (fun i _ _ hafter => ite_eq_self_of_status (of_decide_eq_false rfl) hafter) trivial
    all_goals exact iff_of_true (fun _ _ _ _ => rfl) trivial

/-- **The rows go on telling when devices became free** exactly if the event spares the available ones. -/
theorem Db.UpdatedWhenFreed.commits_iff (h : db.UpdatedWhenFreed times) (hlater : e.Later db)
    (hcommits : e.Commits db db') : db'.UpdatedWhenFreed (times ++ e.freed db) ↔ e.SparesFree db := by
  have hstep : Step db e db' := by
    cases hcommits with
    | service hruns => exact hruns.exec
    | portal hruns => exact hruns.exec
  rw [← hcommits.keepsFree_iff]
  exact ⟨h.keepsFree hlater hcommits hstep, fun hkeeps => h.step hkeeps hcommits hstep⟩

theorem Event.freed_of_same (hstep : Step db e db) : e.freed db = [] := by
  refine List.eq_nil_iff_forall_not_mem.mpr fun x hx => ?_
  obtain ⟨k, t⟩ := x
  obtain ⟨-, hfree, hnot⟩ := (Event.mem_freed hstep).mp hx
  exact hnot hfree

/-! ### Runs -/

/-- **Suggestions have the fewest bookings and then the longest free first**, in every state of a run that spares
available devices; and the next event that commits keeps the times in the rows exactly if it spares them too. -/
theorem longestFreeFirst_of_run {times times' : List (UUID × Datetime)} (h : db.UpdatedWhenFreed times)
    (run : Run (Recorded Step fun db e => e.freed db) (fun s e => e.SparesFree s.1) (db, times) (db', times')) :
    LongestFreeFirst times' db' ∧ ∀ (e : Event) (db'' : Db), e.Later db' → e.Commits db' db'' →
      (db''.UpdatedWhenFreed (times' ++ e.freed db') ↔ e.SparesFree db') := by
  have hlaw : db'.UpdatedWhenFreed times' := by
    refine run.inv (P := fun s => s.1.UpdatedWhenFreed s.2) (fun s e s' hs hspares hstep => ?_) h
    obtain ⟨s₁, times₁⟩ := s
    obtain ⟨s₂, times₂⟩ := s'
    obtain ⟨hstep, rfl⟩ : Step s₁ e s₂ ∧ times₂ = times₁ ++ e.freed s₁ := hstep
    rcases hstep.cases with rfl | hcommits
    · rw [Event.freed_of_same hstep, List.append_nil]
      exact hs
    · exact hs.step (hcommits.keepsFree_iff.mpr hspares) hcommits hstep
  exact ⟨hlaw.longestFreeFirst, fun e db'' hlater hcommits => hlaw.commits_iff hlater hcommits⟩

namespace Sample

/-- A call at a time. -/
def callAt (time : Datetime) (op : Op) : Event :=
  .service { Sample.ctx with
    clock := fun _ => time
    txTime := time } op

/-- Laptop 2 comes back at time 5. -/
def returned : Db := (callAt 5 (.completeReturn 2 .available 9)).exec store

/-- The name of laptop 1 is corrected at time 6. -/
def renamed : Db := (callAt 6 (.editItem 1 { name := some "Notebook" } 9)).exec returned

end Sample

/-- Laptop 1 has been free for longer than laptop 2. -/
theorem longestFreeFirst_of_run_return : LongestFreeFirst [(1, 0), (2, 5)] Sample.returned :=
  (longestFreeFirst_of_run (by decide : Sample.store.UpdatedWhenFreed [(1, 0)])
    (.step .refl (Sample.callAt 5 (.completeReturn 2 .available 9)) trivial ⟨rfl, rfl⟩)).1

/-- Laptop 1 has another name now, and comes after laptop 2. -/
theorem editItem_not_longestFreeFirst :
    Sample.store.UpdatedWhenFreed [(1, 0)] ∧
      Run (Recorded Step fun db e => e.freed db) (fun s e => e.Admitted ∧ e.Later s.1) (Sample.store, [(1, 0)])
        (Sample.renamed, [(1, 0), (2, 5)]) ∧ ¬ LongestFreeFirst [(1, 0), (2, 5)] Sample.renamed := by
  refine ⟨by decide, ?_, fun h => ?_⟩
  · have first : Run (Recorded Step fun db e => e.freed db) (fun s e => e.Admitted ∧ e.Later s.1)
        (Sample.store, [(1, 0)]) (Sample.returned, [(1, 0), (2, 5)]) :=
      .step .refl (Sample.callAt 5 (.completeReturn 2 .available 9)) ⟨by decide, by decide⟩ ⟨rfl, rfl⟩
    exact .step first (Sample.callAt 6 (.editItem 1 { name := some "Notebook" } 9)) ⟨trivial, by decide⟩ ⟨rfl, rfl⟩
  · have hruns : (suggestedDevices 1).Runs Sample.ctx Sample.renamed
        [⟨{ Sample.device 2 "S-2" .available none with updatedAt := 5 }, "Laptop", 0⟩,
          ⟨{ Sample.device 1 "S-1" .available none with
            name := "Notebook"
            updatedAt := 6 }, "Laptop", 0⟩] Sample.renamed := rfl
    have hfirst : Sample.renamed.ComesFirst [(1, 0), (2, 5)] 2 1 :=
      (List.pairwise_cons.mp (h.listed _ 1 _ hruns)).1 _ (List.mem_singleton_self _)
    rcases hfirst with hfewer | ⟨-, s, hs, t, ht, hle⟩
    · exact absurd hfewer (by decide)
    · obtain rfl := Option.some.inj hs
      obtain rfl := Option.some.inj ht
      exact absurd hle (by decide)

end AssetPilot
