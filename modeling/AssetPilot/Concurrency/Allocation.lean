import AssetPilot.Concurrency.Commits
import AssetPilot.Invariants.Store

/-!
# No device is handed out twice

Any number of `assign` calls for different requests and of `direct_assign` calls, in any interleaving of
their steps. All of them may find one device available; what separates them is the flush that writes the
request and its device together under the unique index. A call that has read its device either still has
it as it is stored, or the device is booked by now and the index refuses the call.
-/

namespace AssetPilot

open Relational Txn Interleaving
open AssignmentService

variable {ctx : Ctx} {db db' : Db} {d key : UUID}

/-- The item is assigned to the requester of its one booking. -/
def Db.HeldByBooking (db : Db) (d : UUID) : Prop :=
  ∃ r ∈ db.requests.rows, r.IsBookingFor d ∧ (∀ q ∈ db.requests.rows, q.IsBookingFor d → q = r) ∧
    ∃ i, db.items.get? d = some i ∧ i.status = .assigned ∧ i.currentOwnerId = some r.requesterId

/-! ### Handing out one item -/

/-- The item is assigned to the requester of the booking with this key. -/
def Db.Allocated (db : Db) (d key : UUID) : Prop :=
  ∃ r i, db.requests.get? key = some r ∧ r.IsBookingFor d ∧ db.items.get? d = some i ∧
    i.status = .assigned ∧ i.currentOwnerId = some r.requesterId

theorem Db.Allocated.booked (h : db.Allocated d key) : db.Booked d := by
  obtain ⟨r, -, hr, hbooking, -⟩ := h
  exact ⟨r, Table.get?_mem hr, hbooking⟩

theorem Db.Allocated.held (h : db.Allocated d key) (hdb : db.Consistent) : db.HeldByBooking d := by
  obtain ⟨r, i, hr, hbooking, hi⟩ := h
  refine ⟨r, Table.get?_mem hr, hbooking, fun q hq hqb => ?_, i, hi⟩
  have hid := hdb.booking_unique hq (Table.get?_mem hr) hqb hbooking
  obtain rfl : r.id = key := Table.get?_key hr
  have hrow : db.requests.get? q.id = some q := Table.mem_iff_get?.mp hq
  rw [hid, hr] at hrow
  exact (Option.some.inj hrow).symm

/-- From `db` to `db'` the unbooked item `d` has been handed out under the request `key`. -/
structure HandsOut (db : Db) (d key : UUID) (db' : Db) : Prop where
  free : ¬ db.Booked d
  unassigned : ∀ q, db.requests.get? key = some q → q.status ≠ .assigned
  allocated : db'.Allocated d key
  requests : ∀ k, k ≠ key → db'.requests.get? k = db.requests.get? k
  items : ∀ k, k ≠ d → db'.items.get? k = db.items.get? k
  users : db'.users = db.users
  consistent : db'.Consistent

theorem HandsOut.ne_key (h : HandsOut db d key db') {q : Request} {x : UUID}
    (hq : q ∈ db.requests.rows) (hbooking : q.IsBookingFor x) : q.id ≠ key := fun he =>
  h.unassigned q (he ▸ Table.mem_iff_get?.mp hq) hbooking.2

theorem HandsOut.booked (h : HandsOut db d key db') {x : UUID} (hx : db.Booked x) : db'.Booked x := by
  obtain ⟨q, hq, hbooking⟩ := hx
  refine ⟨q, Table.get?_mem (k := q.id) ?_, hbooking⟩
  rw [h.requests _ (h.ne_key hq hbooking)]
  exact Table.mem_iff_get?.mp hq

theorem HandsOut.keeps (h : HandsOut db d key db') {x k : UUID} (hx : db.Allocated x k) :
    db'.Allocated x k := by
  have hne : x ≠ d := fun he => h.free (he ▸ hx.booked)
  obtain ⟨r, i, hr, hbooking, hi, hassigned, howner⟩ := hx
  have hkey : k ≠ key := fun he => h.unassigned r (he ▸ hr) hbooking.2
  exact ⟨r, i, (h.requests k hkey).trans hr, hbooking, (h.items x hne).trans hi, hassigned, howner⟩

/-! ### What a call has staged -/

/-- The call has read and staged `u`, and at `db` its request is as it was read; its item is as it was
read, or booked. -/
inductive Staged (ctx : Ctx) (db : Db) : Call → UnitOfWork → Prop
  | assign {requestId : UUID} {f t : Datetime} {wfh : Bool} {actorId : UUID} {request : Request} {x : Item}
      (hr : db.requests.get? requestId = some request) (hstatus : request.status = .pendingItApproval)
      (havailable : x.status = .available) (hitem : db.items.get? x.id ≠ none)
      (hx : db.items.get? x.id = some x ∨ db.Booked x.id) :
      Staged ctx db (.assign requestId x.id f t wfh actorId)
        (.handOver (.update request (assignedRequest request x.id f t wfh actorId (ctx.clock 0)))
          x (handedItem x request.requesterId) (handedLog .assigned x.id request.id actorId))
  | directAssign {employeeId : UUID} {f t : Datetime} {actorId : UUID} {x : Item}
      (hemployee : db.users.get? employeeId ≠ none)
      (havailable : x.status = .available) (hitem : db.items.get? x.id ≠ none)
      (hx : db.items.get? x.id = some x ∨ db.Booked x.id) :
      Staged ctx db (.directAssign x.id employeeId f t actorId)
        (.handOver
          (.create (directRequest (ctx.uuid4 0) x.id x.categoryId employeeId f t actorId (ctx.clock 0)))
          x (handedItem x employeeId) (handedLog .clientAssigned x.id (ctx.uuid4 0) actorId))

theorem staged_of_read {c : Call} {u : UnitOfWork} (hitem : c.item ≠ none)
    (h : c.stage.Runs ctx db u db) : Staged ctx db c u := by
  cases c with
  | assign requestId itemId f t wfh actorId =>
    obtain ⟨request, hr, hstatus, x, hx, havailable, -, -, rfl, -⟩ := runs_stageAssign.mp h
    obtain rfl : x.id = itemId := Table.get?_key hx
    exact .assign hr hstatus havailable (hx ▸ Option.some_ne_none x) (.inl hx)
  | directAssign itemId employeeId f t actorId =>
    obtain ⟨x, hx, -, havailable, -, employee, hemployee, -, rfl, -⟩ := runs_stageDirectAssign.mp h
    obtain rfl : x.id = itemId := Table.get?_key hx
    exact .directAssign (hemployee ▸ Option.some_ne_none employee) havailable
      (hx ▸ Option.some_ne_none x) (.inl hx)
  | reject | cancel | escalateToManager => exact absurd rfl hitem

/-- What one flush of a request and its available item does, when the log entry goes through too. -/
theorem handsOut_of_flush {db₁ db₂ : Db} {row : Request} {x x' : Item} {ownerId : UUID}
    (hitem : db.items.get? x.id = some x ∨ db.Booked x.id) (havailable : x.status = .available)
    (hbooking : row.IsBookingFor x.id) (howner : row.requesterId = ownerId)
    (hintegral : db.RequestIntegral row)
    (hunassigned : ∀ q, db.requests.get? row.id = some q → q.status ≠ .assigned)
    (hrequests : ∀ k, db₁.requests.get? k = if k = row.id then some row else db.requests.get? k)
    (hitems : db₁.items = db.items) (husers : db₁.users = db.users) (hconsistent : db₁.Consistent)
    (hupdate : (updateColumns x (handedItem x ownerId)).Runs ctx db₁ x' db₂) :
    HandsOut db x.id row.id db₂ := by
  obtain ⟨current, hcurrent, hok, hx', rfl⟩ := runs_updateColumns.mp hupdate
  have hcurrent : db₁.items.get? x.id = some current := hcurrent
  have hfree : ¬ db.Booked x.id := by
    rintro ⟨q, hq, hqb⟩
    have hid := hintegral.not_booked hbooking hq hqb
    exact hunassigned q (hid ▸ Table.mem_iff_get?.mp hq) hqb.2
  have hx := hitem.resolve_right hfree
  obtain rfl : current = x := Option.some.inj (hcurrent.symm.trans (hitems ▸ hx))
  rw [overlaid_handedItem havailable, column_same] at hx'
  have hid : x'.id = current.id := by rw [hx']
  have hstored : (db₁.items.set x').get? current.id = some x' := Table.get?_set_self hcurrent hid
  refine ⟨hfree, hunassigned, ⟨row, x', (hrequests _).trans (if_pos rfl), hbooking, hstored, ?_, ?_⟩,
    fun k hk => (hrequests k).trans (if_neg hk), fun k hk => ?_, husers,
    hconsistent.setItem (Item.constraints_ok.mp hok)⟩
  · rw [hx']
  · rw [hx', howner]
  · have hne : k ≠ x'.id := hid ▸ hk
    exact (Table.get?_set_of_ne hne).trans (congrArg (fun t => Table.get? t k) hitems)

theorem HandsOut.appendLog (h : HandsOut db d key db') (l : DeviceLog) :
    HandsOut db d key (db'.appendLog l) :=
  { h with consistent := h.consistent.appendLog }

/-- **A commit hands its item out**, or fails. -/
theorem Staged.handsOut {c : Call} {u : UnitOfWork} {row : Request} (h : db.Consistent)
    (hs : Staged ctx db c u) (hc : u.commit.Runs ctx db row db') :
    ∃ d, c.item = some d ∧ HandsOut db d (c.key ctx) db' ∧
      (db.requests.get? (c.key ctx) ≠ none → c.request = some (c.key ctx)) := by
  cases hs with
  | @assign requestId f t wfh actorId request x hr hstatus havailable _ hx =>
    obtain ⟨db₁, hflush, x', db₂, hupdate, -, rfl⟩ := runs_handOver.mp hc
    obtain rfl : request.id = requestId := Table.get?_key hr
    obtain ⟨hintegral, hrow, rfl⟩ := flush_update hflush hr rfl rfl
    have hid : row.id = request.id := hrow ▸ rfl
    have hbooking : row.IsBookingFor x.id := hrow ▸ ⟨rfl, rfl⟩
    have howner : row.requesterId = request.requesterId := hrow ▸ rfl
    have hstored : db.requests.get? row.id = some request := hid ▸ hr
    have hset : ∀ k, (db.setRequest row).requests.get? k =
        if k = row.id then some row else db.requests.get? k := Table.get?_set_of_get? hstored
    have hunassigned : ∀ q, db.requests.get? row.id = some q → q.status ≠ .assigned := by
      intro q hq hassigned
      obtain rfl := Option.some.inj (hstored.symm.trans hq)
      exact absurd (hstatus.symm.trans hassigned) (by decide)
    have key := handsOut_of_flush hx havailable hbooking howner hintegral hunassigned hset rfl rfl
      (h.setRequest hintegral) hupdate
    rw [hid] at key
    exact ⟨x.id, rfl, key.appendLog _, fun _ => rfl⟩
  | @directAssign employeeId f t actorId x _ havailable _ hx =>
    obtain ⟨db₁, hflush, x', db₂, hupdate, -, rfl⟩ := runs_handOver.mp hc
    obtain ⟨hfresh, hintegral, hrow, rfl⟩ := runs_flush_create.mp hflush
    have hid : row.id = ctx.uuid4 0 := hrow ▸ rfl
    have hbooking : row.IsBookingFor x.id := hrow ▸ ⟨rfl, rfl⟩
    have howner : row.requesterId = employeeId := hrow ▸ rfl
    have hfresh : db.requests.get? row.id = none := hid ▸ hfresh
    have hinsert : ∀ k, (db.addRequest row).requests.get? k =
        if k = row.id then some row else db.requests.get? k := Table.get?_insert hfresh
    have key := handsOut_of_flush hx havailable hbooking howner hintegral
      (fun q hq => absurd (hfresh.symm.trans hq) (Option.some_ne_none q).symm) hinsert rfl rfl
      (h.addRequest hfresh hintegral) hupdate
    rw [hid] at key hfresh
    exact ⟨x.id, rfl, key.appendLog _, fun hne => absurd hfresh hne⟩

theorem fails_updateItem {x : Item} {ownerId : UUID} {e : Failure} (h : db.Consistent)
    (hitem : db.items.get? x.id ≠ none) (havailable : x.status = .available)
    (hf : (updateColumns x (handedItem x ownerId)).Fails ctx db e) : e = .integrityError := by
  rcases fails_updateColumns.mp hf with ⟨hnone, -⟩ | ⟨current, hcurrent, herror⟩
  · exact absurd hnone hitem
  · rw [overlaid_handedItem havailable] at herror
    rcases constraintCheck_error.mp herror with ⟨hfits, -⟩ | ⟨-, -, he⟩
    · exact absurd (h.items current (Table.get?_mem hcurrent)).1 hfits
    · exact he

theorem fails_handedOver {request : RequestWrite} {x : Item} {ownerId actorId key : UUID}
    {event : DeviceLogEvent} {e : Failure}
    (hf : (UnitOfWork.handOver request x (handedItem x ownerId)
      (handedLog event x.id key actorId)).commit.Fails ctx db e)
    (hflush : ∀ e, request.flush.Fails ctx db e → e = .integrityError)
    (hwrites : ∀ row db₁, request.flush.Runs ctx db row db₁ → db₁.Consistent ∧
      db₁.items = db.items ∧ db₁.users = db.users ∧ db₁.requests.get? key ≠ none)
    (hitem : db.items.get? x.id ≠ none) (havailable : x.status = .available)
    (hactor : db.users.get? actorId ≠ none) : e.IsApp := by
  rcases fails_handOver.mp hf with ⟨e', he', rfl⟩ | ⟨row, db₁, hrow, hrest⟩
  · exact isApp_integrityErrorAsConflict (.inr (hflush e' he'))
  obtain ⟨hconsistent, hitems, husers, hkey⟩ := hwrites row db₁ hrow
  rcases hrest with ⟨e', he', rfl⟩ | ⟨x', db₂, hx', hlog, -⟩
  · rw [← hitems] at hitem
    exact isApp_integrityErrorAsConflict (.inr (fails_updateItem hconsistent hitem havailable he'))
  · -- the entry names rows that are there
    obtain ⟨current, -, -, -, rfl⟩ := runs_updateColumns.mp hx'
    have hitem' : (db₁.items.set x').get? x.id ≠ none := by
      rw [hitems]
      exact fun hnone => hitem (Table.get?_set_eq_none.mp hnone)
    rw [← husers] at hactor
    have hintegral : (db₁.setItem x').DeviceLogIntegral (handedLog event x.id key actorId).row :=
      handedLog_integral.mpr ⟨hitem', hactor, hkey⟩
    exact absurd hintegral hlog

/-- **A commit that fails ends in a domain error.** -/
theorem Staged.fails_isApp {c : Call} {u : UnitOfWork} {e : Failure} (h : db.Consistent)
    (hs : Staged ctx db c u) (hactor : ∀ a ∈ c.actor, db.users.get? a ≠ none)
    (hf : u.commit.Fails ctx db e) : e.IsApp := by
  cases hs with
  | @assign requestId f t wfh actorId request x hr hstatus havailable hitem hx =>
    obtain rfl : request.id = requestId := Table.get?_key hr
    refine fails_handedOver hf (fun e he => fails_flush_update he hr rfl rfl) (fun row db₁ hrow => ?_)
      hitem havailable (hactor actorId rfl)
    obtain ⟨hintegral, hrow, rfl⟩ := flush_update hrow hr rfl rfl
    exact ⟨h.setRequest hintegral, rfl, rfl, fun hnone =>
      Option.some_ne_none request (hr.symm.trans (Table.get?_set_eq_none.mp hnone))⟩
  | @directAssign employeeId f t actorId x hemployee havailable hitem hx =>
    refine fails_handedOver hf (fun e he => fails_flush_create he) (fun row db₁ hrow => ?_) hitem
      havailable (hactor actorId rfl)
    obtain ⟨hfresh, hintegral, hborn, rfl⟩ := runs_flush_create.mp hrow
    have hid : row.id = ctx.uuid4 0 := hborn ▸ rfl
    have hfresh : db.requests.get? row.id = none := hid ▸ hfresh
    refine ⟨h.addRequest hfresh hintegral, rfl, rfl, ?_⟩
    have hinsert := Table.get?_insert hfresh (ctx.uuid4 0)
    exact fun hnone => Option.some_ne_none row ((hinsert.trans (if_pos hid.symm)).symm.trans hnone)

theorem Staged.undisturbed {c : Call} {u : UnitOfWork} (hs : Staged ctx db c u)
    (h : HandsOut db d key db') (hkey : c.request = some key → db.requests.get? key = none) :
    Staged ctx db' c u := by
  have hitem : ∀ {x : Item}, db.items.get? x.id ≠ none → db'.items.get? x.id ≠ none := by
    intro x hx
    by_cases hd : x.id = d
    · obtain ⟨_, i, -, -, hi, -⟩ := h.allocated
      rw [hd, hi]
      exact Option.some_ne_none i
    · rwa [h.items _ hd]
  have hread : ∀ {x : Item}, db.items.get? x.id = some x ∨ db.Booked x.id →
      db'.items.get? x.id = some x ∨ db'.Booked x.id := by
    intro x hx
    by_cases hd : x.id = d
    · exact .inr (hd ▸ h.allocated.booked)
    · exact hx.imp (fun hx => (h.items _ hd).trans hx) h.booked
  cases hs with
  | @assign requestId f t wfh actorId request x hr hstatus havailable hi hx =>
    have hne : requestId ≠ key := fun he =>
      Option.some_ne_none request (hr.symm.trans (he ▸ hkey (congrArg some he)))
    exact .assign ((h.requests _ hne).trans hr) hstatus havailable (hitem hi) (hread hx)
  | directAssign hemployee havailable hi hx =>
    exact .directAssign (h.users ▸ hemployee) havailable (hitem hi) (hread hx)

theorem failsOnly_stage {c : Call} (hitem : c.item ≠ none) : FailsOnly Failure.IsApp c.stage := by
  cases c with
  | assign => exact failsOnly_stageAssign
  | directAssign => exact failsOnly_stageDirectAssign
  | reject | cancel | escalateToManager => exact absurd rfl hitem

/-! ### Any number of calls -/

section
variable {ι : Type} [DecidableEq ι] {calls : ι → Call} {ctxs : ι → Ctx}

/-- The assertion about a call in each phase. -/
def allocation (calls : ι → Call) (ctxs : ι → Ctx) (i : ι) : Phase UnitOfWork Failure Request → Db → Prop
  | .waiting, _ => True
  | .ready staged, db => Staged (ctxs i) db (calls i) staged
  | .done (.ok _), db => ∃ d, (calls i).item = some d ∧ db.Allocated d ((calls i).key (ctxs i))
  | .done (.error e), _ => e.IsApp

/-- The calls are allocations for different requests, made by administrators that `db` knows. -/
structure Allocations (calls : ι → Call) (db : Db) : Prop where
  item : ∀ i, (calls i).item ≠ none
  distinct : ∀ i j, (calls i).request ≠ none → (calls i).request = (calls j).request → i = j
  actor : ∀ i, ∀ a ∈ (calls i).actor, db.users.get? a ≠ none

/-- The proof outline of the allocations. -/
def allocationOutline (hcalls : Allocations calls db) : Outline (concurrently calls ctxs) where
  Inv db' := db'.Consistent ∧ db'.users = db.users
  Holds := allocation calls ctxs
  read_ok _ h := staged_of_read (hcalls.item _) (concurrently_read_ok.mp h)
  read_error _ h := failsOnly_stage (hcalls.item _) _ _ _ (concurrently_read_error.mp h)
  commit_ok {i s staged a s'} hinv hs h := by
    obtain ⟨d, hd, hhands, -⟩ := Staged.handsOut hinv.1 hs h
    exact ⟨⟨hhands.consistent, hhands.users.trans hinv.2⟩, d, hd, hhands.allocated⟩
  commit_error {i s staged e} hinv hs h := by
    refine Staged.fails_isApp hinv.1 hs ?_ h
    rw [hinv.2]
    exact hcalls.actor i
  undisturbed {i j s staged a s' φ} hij hinv hs hj h := by
    obtain ⟨d, -, hhands, hkey⟩ := Staged.handsOut hinv.1 hs h
    match φ, hj with
    | .waiting, _ => trivial
    | .ready staged', hj =>
      refine Staged.undisturbed hj hhands fun hrequest => ?_
      by_contra hne
      exact hij (hcalls.distinct i j (hkey hne ▸ Option.some_ne_none _) ((hkey hne).trans hrequest.symm))
    | .done (.ok _), ⟨d', hd', hallocated⟩ => exact ⟨d', hd', hhands.keeps hallocated⟩
    | .done (.error _), hj => exact hj

/-- **No device is handed out twice**, in any interleaving of any number of calls: for each item at most
one call succeeds; a call that does not ends in a domain error and leaves no trace; and each item that was
handed out is assigned to the requester of its one booking. -/
theorem allocatedOnce (h : db.Consistent) (hcalls : Allocations calls db) (schedule : List ι) :
    let st := (concurrently calls ctxs).exec (.start db) schedule
    (∀ i j, (st.phase i).succeeded → (st.phase j).succeeded → (calls i).item = (calls j).item → i = j) ∧
    (∀ i, 2 ≤ schedule.count i → ¬ (st.phase i).succeeded →
      ∃ e, st.phase i = .done (.error e) ∧ e.IsApp) ∧
    ((concurrently calls ctxs).exec (.start db) (schedule.filter fun i => (st.phase i).succeeded)).store =
      st.store ∧
    ∀ i, (st.phase i).succeeded → ∀ d ∈ (calls i).item, st.store.HeldByBooking d := by
  intro st
  let outline : Outline (concurrently calls ctxs) := allocationOutline hcalls
  have hstart : outline.Valid (.start db) := ⟨⟨h, rfl⟩, fun _ => trivial⟩
  have hvalid : outline.Valid st := hstart.exec schedule
  refine ⟨fun i j hi hj hitem => ?_, fun i hcount hi => ?_, ?_, fun i hi d hd => ?_⟩
  · by_contra hij
    refine hstart.exec_pairwise (fun i j => (calls i).item ≠ (calls j).item) Ne.symm ?_ schedule hij hi hj
      hitem
    -- the later call would book an item that is booked
    intro i j s staged a s' b _ hinv hs hdone hcommit hsame
    obtain ⟨d, hd, hhands, -⟩ := Staged.handsOut hinv.1 hs hcommit
    obtain ⟨d', hd', hallocated⟩ := hdone
    obtain rfl := Option.some.inj (hd.symm.trans (hsame.trans hd'))
    exact hhands.free hallocated.booked
  · obtain ⟨result, hresult⟩ := (concurrently calls ctxs).exec_done hcount db
    have hholds := hvalid.2 i
    match result, hresult with
    | .ok a, hresult => exact absurd (Phase.succeeded_iff.mpr ⟨a, hresult⟩) hi
    | .error e, hresult =>
      rw [hresult] at hholds
      exact ⟨e, hresult, hholds⟩
  · exact Calls.exec_filter_store schedule fun i hi => by simpa using hi
  · obtain ⟨a, ha⟩ := Phase.succeeded_iff.mp hi
    have hholds := hvalid.2 i
    rw [ha] at hholds
    obtain ⟨d', hd', hallocated⟩ := hholds
    obtain rfl := Option.some.inj (hd.symm.trans hd')
    exact hallocated.held hvalid.1.1

end

/-- Laptop 1 is a client's. -/
def Sample.clientStore : Db :=
  { Sample.store with
    items := ⟨[{ Sample.device 1 "S-1" .available none with ownerType := .client },
      Sample.device 2 "S-2" .assigned (some 2)], by decide⟩ }

/-- Laptop 1 is assigned to request 1, and directly to employee 2. -/
def Sample.rivals : Bool → Call
  | false => .assign 1 1 0 10 false 9
  | true => .directAssign 1 2 0 10 9

/-- Both find the laptop available; the first to commit has it. -/
theorem allocatedOnce_rivals :
    let st := (concurrently Sample.rivals fun _ => Sample.ctx).exec (.start Sample.clientStore)
      [false, true, true, false]
    (∀ i j, (st.phase i).succeeded → (st.phase j).succeeded →
      (Sample.rivals i).item = (Sample.rivals j).item → i = j) ∧
    (∀ i, 2 ≤ [false, true, true, false].count i → ¬ (st.phase i).succeeded →
      ∃ e, st.phase i = .done (.error e) ∧ e.IsApp) ∧
    ((concurrently Sample.rivals fun _ => Sample.ctx).exec (.start Sample.clientStore)
      ([false, true, true, false].filter fun i => (st.phase i).succeeded)).store = st.store ∧
    ∀ i, (st.phase i).succeeded → ∀ d ∈ (Sample.rivals i).item, st.store.HeldByBooking d :=
  allocatedOnce (by decide : Sample.clientStore.Consistent)
    { item := fun i => by cases i <;> decide
      distinct := fun i j _ hij => by cases i <;> cases j <;> first | rfl | exact absurd hij (by decide)
      actor := fun i a ha => by
        obtain rfl : a = 9 := by cases i <;> exact (Option.some.inj ha).symm
        decide }
    [false, true, true, false]

end AssetPilot
