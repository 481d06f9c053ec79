import AssetPilot.Concurrency.Allocation
import AssetPilot.Invariants.Answers
import AssetPilot.Invariants.People

/-!
# Deactivating a user who is just given a device

`deactivate` checks that the user holds nothing, and `direct_assign` checks that the user is active. Each writes what
the other one has checked, and neither locks it: when both read before either flushes, both go through.
-/

namespace AssetPilot

open Relational System Txn Interleaving

variable {ctx : Ctx} {db db' s s' : Db} {e : Failure}

/-- The stored row `x` under the columns in which `c` differs from `l`. -/
instance : Columns User where
  overlay l c x := {
    id := x.id
    name := textColumn l.name c.name x.name
    email := textColumn l.email c.email x.email
    passwordHash := textColumn? l.passwordHash c.passwordHash x.passwordHash
    role := column l.role c.role x.role
    managerId := column l.managerId c.managerId x.managerId
    isActive := column l.isActive c.isActive x.isActive
    createdAt := column l.createdAt c.createdAt x.createdAt
    updatedAt := column l.updatedAt c.updatedAt x.updatedAt }

theorem User.updateColumns_of_get? {u c : User} (h : db.users.get? u.id = some u) (hid : c.id = u.id)
    (htouch : c.updatedAt = u.updatedAt) : updateColumns u c ctx db = UserRepository.update c ctx db :=
  updateColumns_of_stored h hid htouch (by simp [Columns.overlay, Model.assign, ← hid])

/-! ### The two steps -/

/-- The user without access. -/
def User.deactivated (u : User) : User := { u with isActive := false }

/-- `deactivate` up to its flush. -/
def UserService.stageDeactivate (userId : UUID) : Service User := do
  let user ← getUserOr404 userId
  let holds ← UserRepository.hasActiveDevicesOrRequests user.id
  raiseIf holds (conflictException "Cannot deactivate a user who currently holds a device or has an open request.")
  return user

/-- What one of the two calls has in its session. -/
inductive Staffing
  | leaving (loaded : User)
  | equipping (work : UnitOfWork)

def Staffing.commit : Staffing → Service Unit
  | .leaving loaded => discard (updateColumns loaded loaded.deactivated)
  | .equipping work => discard work.commit

/-- One administrator deactivates the user, another one hands the user a device. -/
structure Rivalry where
  userId : UUID
  itemId : UUID
  assignedFrom : Datetime
  assignedTo : Datetime
  actorId : UUID

def Rivalry.op (v : Rivalry) : Bool → Op
  | false => .deactivate v.userId
  | true => .directAssign v.itemId v.userId v.assignedFrom v.assignedTo v.actorId

def Rivalry.stage (v : Rivalry) : Bool → Service Staffing
  | false => do
    let loaded ← UserService.stageDeactivate v.userId
    return .leaving loaded
  | true => do
    let work ← AssignmentService.stageDirectAssign v.itemId v.userId v.assignedFrom v.assignedTo v.actorId
    return .equipping work

/-- **Flushed right after its read, each call is the service operation.** -/
theorem Rivalry.run_eq (v : Rivalry) (i : Bool) : (v.op i).run = v.stage i >>= Staffing.commit := by
  funext ctx db
  cases i with
  | false =>
    simp only [op, Op.run, stage, UserService.deactivate, UserService.stageDeactivate, Staffing.commit, discard,
      Txn.bind_assoc, Txn.pure_bind]
    refine bind_congr_runs fun user _ h => bind_congr_runs fun holds _ h₁ => bind_congr_runs fun _ db' h₂ =>
      bind_congr_left ?_
    obtain ⟨hu, rfl⟩ := UserService.runs_getUserOr404.mp h
    obtain ⟨-, rfl⟩ := UserRepository.runs_hasActiveDevicesOrRequests.mp h₁
    obtain ⟨-, rfl⟩ := runs_raiseIf.mp h₂
    have hloaded : db'.users.get? user.id = some user := (congrArg _ (Table.get?_key hu)).trans hu
    exact (User.updateColumns_of_get? (c := user.deactivated) hloaded rfl rfl).symm
  | true =>
    simp only [op, Op.run, stage, Staffing.commit, discard, Txn.bind_assoc, Txn.pure_bind]
    refine (bind_congr_left (stageDirectAssign_commit _ _ _ _ _).symm).trans ?_
    rw [Txn.bind_assoc]

def rivalry (v : Rivalry) (ctxs : Bool → Ctx) : Interleaving.Calls Bool Db Staffing Failure Unit where
  read i db := (v.stage i (ctxs i) db).map Prod.fst
  commit i staged db := staged.commit (ctxs i) db

/-! ### Reading -/

variable {v : Rivalry} {ctxs : Bool → Ctx} {i : Bool} {staged : Staffing}

theorem runs_stageDeactivate {userId : UUID} {user : User} :
    (UserService.stageDeactivate userId).Runs ctx s user s' ↔ s.users.get? userId = some user ∧
      ((∀ i ∈ s.items.rows, i.currentOwnerId ≠ some user.id) ∧ ∀ r ∈ s.requests.rows, r.requesterId = user.id →
        r.status ∉ UserRepository._NON_TERMINAL_REQUEST_STATUSES) ∧ s' = s := by
  simp [UserService.stageDeactivate, and_assoc]

theorem Rivalry.stage_eq (h : (v.stage i).Runs ctx s staged s') : s' = s := by
  cases i with
  | false =>
    simp only [stage, runs_bind, runs_stageDeactivate, runs_pure] at h
    obtain ⟨_, _, ⟨-, -, rfl⟩, -, rfl⟩ := h
    rfl
  | true =>
    simp only [stage, runs_bind, runs_pure] at h
    obtain ⟨_, _, hstage, -, rfl⟩ := h
    obtain ⟨_, -, -, -, -, _, -, -, -, rfl⟩ := runs_stageDirectAssign.mp hstage
    rfl

theorem Rivalry.read_ok : (rivalry v ctxs).read i s = .ok staged ↔ (v.stage i).Runs (ctxs i) s staged s := by
  refine map_fst_ok.trans ⟨?_, fun h => ⟨s, h⟩⟩
  rintro ⟨s', h⟩
  exact Rivalry.stage_eq h ▸ h

/-- The call reads at `s` and goes through at `s₁`. -/
def Rivalry.Lands (v : Rivalry) (i : Bool) (ctx : Ctx) (s s₁ s₂ : Db) : Prop :=
  ∃ staged, (v.stage i).Runs ctx s staged s ∧ staged.commit.Runs ctx s₁ () s₂

theorem Rivalry.lands_self {s₂ : Db} : v.Lands i ctx s s s₂ ↔ (v.op i).run.Runs ctx s () s₂ := by
  rw [v.run_eq, runs_bind]
  constructor
  · rintro ⟨staged, hread, hcommit⟩
    exact ⟨staged, s, hread, hcommit⟩
  · rintro ⟨staged, s', hread, hcommit⟩
    obtain rfl := Rivalry.stage_eq hread
    exact ⟨staged, hread, hcommit⟩

theorem Rivalry.settle (v : Rivalry) (ctxs : Bool → Ctx) (i : Bool) (s s₁ : Db) :
    let p := (rivalry v ctxs).settle i s s₁
    (p.1.succeeded ∧ v.Lands i (ctxs i) s s₁ p.2) ∨
      (¬ p.1.succeeded ∧ p.2 = s₁ ∧ ∀ s₂, ¬ v.Lands i (ctxs i) s s₁ s₂) := by
  intro p
  rcases (rivalry v ctxs).settle_cases i s s₁ with ⟨staged, a, s₂, hread, hcommit, hp⟩ | ⟨e, hp, hnot⟩
  · refine .inl ?_
    simp only [p, hp]
    exact ⟨rfl, staged, Rivalry.read_ok.mp hread, hcommit⟩
  · refine .inr ?_
    simp only [p, hp]
    refine ⟨Bool.false_ne_true, trivial, ?_⟩
    rintro s₂ ⟨staged, hread, hcommit⟩
    exact hnot staged () s₂ (Rivalry.read_ok.mpr hread) hcommit

/-! ### One after the other -/

theorem Rivalry.refused_after {s₁ s₂ : Db} (h : (v.op i).run.Runs ctx s () s₁) :
    ¬ (v.op !i).run.Runs (ctxs (!i)) s₁ () s₂ := by
  intro h'
  cases i with
  | false =>
    obtain ⟨_, h⟩ := runs_discard.mp h
    obtain ⟨_, h'⟩ := runs_discard.mp h'
    obtain ⟨u, hu, -, u', hu', -, -, rfl⟩ := UserService.runs_deactivate.mp h
    obtain ⟨-, -, -, -, -, u'', hu'', hactive, -⟩ := AssignmentService.runs_directAssign.mp h'
    have hkey : u'.id = v.userId := hu' ▸ Table.get?_key hu
    obtain rfl := Option.some.inj ((Table.get?_set_self hu hkey).symm.trans hu'')
    rw [hu'] at hactive
    exact Bool.false_ne_true hactive
  | true =>
    obtain ⟨_, h⟩ := runs_discard.mp h
    obtain ⟨_, h'⟩ := runs_discard.mp h'
    obtain ⟨x, hx, -, -, -, u, hu, -, q, -, -, -, x', hx', -, -, -, rfl⟩ := AssignmentService.runs_directAssign.mp h
    obtain ⟨u', hu', ⟨hnone, -⟩, -⟩ := UserService.runs_deactivate.mp h'
    have hkey : x'.id = v.itemId := hx' ▸ Table.get?_key hx
    have hmem : x' ∈ (s.items.set x').rows := Table.get?_mem (Table.get?_set_self hx hkey)
    refine hnone x' hmem ?_
    have hid : u'.id = v.userId := Table.get?_key hu'
    rw [hx', hid]
    rfl

/-! ### One between the steps of the other -/

/-- The flush of `direct_assign` does not look at who is active. -/
theorem runs_handOver_setUser {u : User} {q row : Request} {x c : Item} {log : DeviceLogService.AppendArgs} :
    (∃ s', (UnitOfWork.handOver (.create q) x c log).commit.Runs ctx (s.setUser u) row s') ↔
      ∃ s', (UnitOfWork.handOver (.create q) x c log).commit.Runs ctx s row s' := by
  have hrequest : (s.setUser u).RequestIntegral row ↔ s.RequestIntegral row := by
    simp [Db.RequestIntegral, Db.setUser]
  have hitem : ∀ y : Item, ((s.setUser u).addRequest row).ItemIntegral y ↔ (s.addRequest row).ItemIntegral y := by
    simp [Db.ItemIntegral, Db.setUser, Db.addRequest]
  have hlog : ∀ (y : Item) (l : DeviceLog), (((s.setUser u).addRequest row).setItem y).DeviceLogIntegral l ↔
      ((s.addRequest row).setItem y).DeviceLogIntegral l := by
    simp [Db.DeviceLogIntegral, Db.setUser, Db.addRequest, Db.setItem]
  simp only [runs_handOver, runs_flush_create, runs_updateColumns, Item.constraints_ok]
  constructor
  · rintro ⟨_, _, ⟨hfresh, hok, hrow, rfl⟩, y, _, ⟨current, hcurrent, ⟨hfits, hy⟩, hover, rfl⟩, hl, -⟩
    exact ⟨_, _, ⟨hfresh, hrequest.mp hok, hrow, rfl⟩, y, _,
      ⟨current, hcurrent, ⟨hfits, (hitem y).mp hy⟩, hover, rfl⟩, (hlog y _).mp hl, rfl⟩
  · rintro ⟨_, _, ⟨hfresh, hok, hrow, rfl⟩, y, _, ⟨current, hcurrent, ⟨hfits, hy⟩, hover, rfl⟩, hl, -⟩
    exact ⟨_, _, ⟨hfresh, hrequest.mpr hok, hrow, rfl⟩, y, _,
      ⟨current, hcurrent, ⟨hfits, (hitem y).mpr hy⟩, hover, rfl⟩, (hlog y _).mpr hl, rfl⟩

/-- The user has lost access, and has a device. -/
def Db.LeftEquipped (s : Db) (userId : UUID) : Prop :=
  (∃ u, s.users.get? userId = some u ∧ u.isActive = false) ∧ ∃ x ∈ s.items.rows, x.currentOwnerId = some userId

theorem Db.LeftEquipped.not_holdNothing {userId : UUID} (h : s.LeftEquipped userId) : ¬ s.InactiveHoldNothing := by
  obtain ⟨⟨u, hu, hinactive⟩, x, hx, howner⟩ := h
  have hid : u.id = userId := Table.get?_key hu
  exact fun hnothing => (hnothing u (Table.get?_mem hu) hinactive).1 x hx (hid ▸ howner)

theorem Rivalry.lands_true {s₁ s₂ : Db} : v.Lands true ctx s s₁ s₂ ↔
    ∃ work, (AssignmentService.stageDirectAssign v.itemId v.userId v.assignedFrom v.assignedTo v.actorId).Runs ctx s
      work s ∧ ∃ row, work.commit.Runs ctx s₁ row s₂ := by
  constructor
  · rintro ⟨staged, hstage, hcommit⟩
    simp only [stage, runs_bind, runs_pure] at hstage
    obtain ⟨work, _, hread, rfl, rfl⟩ := hstage
    exact ⟨work, hread, runs_discard.mp hcommit⟩
  · rintro ⟨work, hread, hcommit⟩
    refine ⟨.equipping work, ?_, runs_discard.mpr hcommit⟩
    simp only [stage, runs_bind, runs_pure]
    exact ⟨work, s, hread, rfl, rfl⟩

theorem Rivalry.lands_false {s₁ s₂ : Db} : v.Lands false ctx s s₁ s₂ ↔
    ∃ u, (UserService.stageDeactivate v.userId).Runs ctx s u s ∧
      ∃ row, (updateColumns u u.deactivated).Runs ctx s₁ row s₂ := by
  constructor
  · rintro ⟨staged, hstage, hcommit⟩
    simp only [stage, runs_bind, runs_pure] at hstage
    obtain ⟨u, _, hread, rfl, rfl⟩ := hstage
    exact ⟨u, hread, runs_discard.mp hcommit⟩
  · rintro ⟨u, hread, hcommit⟩
    refine ⟨.leaving u, ?_, runs_discard.mpr hcommit⟩
    simp only [stage, runs_bind, runs_pure]
    exact ⟨u, s, hread, rfl, rfl⟩

/-- `direct_assign` goes through after a deactivation that it has not seen. -/
theorem Rivalry.equipped_after {u : User} (hu : s.users.get? v.userId ≠ none) (hid : u.id = v.userId)
    (hinactive : u.isActive = false) :
    ((∃ s₂, v.Lands true ctx s (s.setUser u) s₂) ↔ ∃ s₂, v.Lands true ctx s s s₂) ∧
      ∀ s₂, v.Lands true ctx s (s.setUser u) s₂ → s₂.LeftEquipped v.userId := by
  simp only [lands_true]
  refine ⟨⟨?_, ?_⟩, ?_⟩
  · rintro ⟨s₂, work, hread, row, hcommit⟩
    obtain ⟨x, -, -, -, -, _, -, -, rfl, -⟩ := runs_stageDirectAssign.mp hread
    obtain ⟨s', hcommit'⟩ := runs_handOver_setUser.mp ⟨s₂, hcommit⟩
    exact ⟨s', _, hread, row, hcommit'⟩
  · rintro ⟨s₂, work, hread, row, hcommit⟩
    obtain ⟨x, -, -, -, -, _, -, -, rfl, -⟩ := runs_stageDirectAssign.mp hread
    obtain ⟨s', hcommit'⟩ := runs_handOver_setUser.mpr ⟨s₂, hcommit⟩
    exact ⟨s', _, hread, row, hcommit'⟩
  · rintro s₂ ⟨work, hread, row, hcommit⟩
    obtain ⟨x, hx, -, havailable, -, _, -, -, rfl, -⟩ := runs_stageDirectAssign.mp hread
    obtain ⟨_, hflush, y, _, hupdate, -, rfl⟩ := runs_handOver.mp hcommit
    obtain ⟨-, -, -, rfl⟩ := runs_flush_create.mp hflush
    obtain ⟨current, hcurrent, -, hy, rfl⟩ := runs_updateColumns.mp hupdate
    have hxid : x.id = v.itemId := Table.get?_key hx
    have hstored : s.items.get? x.id = some current := hcurrent
    obtain rfl : x = current := Option.some.inj (hx.symm.trans (hxid ▸ hstored))
    rw [overlaid_handedItem havailable, column_same] at hy
    have hyid : y.id = x.id := hy ▸ rfl
    have hmem : y ∈ (s.items.set y).rows := Table.get?_mem (Table.get?_set_self hstored hyid)
    obtain ⟨u₀, hu₀⟩ := Option.ne_none_iff_exists'.mp hu
    exact ⟨⟨u, Table.get?_set_self hu₀ hid, hinactive⟩, y, hmem, hy ▸ rfl⟩

theorem Rivalry.left_after {s₁ : Db} (hs : s.Coherent) (hs₁ : s₁.Coherent) (husers : s₁.users = s.users)
    (hequipped : ∃ x ∈ s₁.items.rows, x.currentOwnerId = some v.userId) :
    ((∃ s₂, v.Lands false ctx s s₁ s₂) ↔ ∃ s₂, v.Lands false ctx s s s₂) ∧
      ∀ s₂, v.Lands false ctx s s₁ s₂ → s₂.LeftEquipped v.userId := by
  -- the flush of a row that still is as it was loaded satisfies its constraints
  have hflush : ∀ {s' : Db} {u : User}, s'.Coherent → s'.users.get? v.userId = some u →
      ∃ row, (updateColumns u u.deactivated).Runs ctx s' row (s'.setUser row) := by
    intro s' u hs' hu
    have hstored : s'.users.get? u.id = some u := (congrArg _ (Table.get?_key hu)).trans hu
    have hok : Model.constraints s' (overlaid ctx u u.deactivated u) = .ok () :=
      hs'.user_ok hu ⟨rfl, column_same _ _⟩
        ⟨(textColumn_same _ _).trans varcharColumn_same, (textColumn_same _ _).trans varcharColumn_same,
          (textColumn?_same _ _).trans varcharColumn?_same⟩
    exact ⟨_, runs_updateColumns.mpr ⟨u, hstored, hok, rfl, rfl⟩⟩
  simp only [lands_false]
  refine ⟨⟨?_, ?_⟩, ?_⟩
  · rintro ⟨s₂, u, hread, row, hcommit⟩
    obtain ⟨row, hrow⟩ := hflush hs (runs_stageDeactivate.mp hread).1
    exact ⟨_, u, hread, row, hrow⟩
  · rintro ⟨s₂, u, hread, row, hcommit⟩
    obtain ⟨row, hrow⟩ := hflush hs₁ (husers ▸ (runs_stageDeactivate.mp hread).1)
    exact ⟨_, u, hread, row, hrow⟩
  · rintro s₂ ⟨u, hread, row, hcommit⟩
    obtain ⟨current, hcurrent, -, hrow, rfl⟩ := runs_updateColumns.mp hcommit
    have hu : s₁.users.get? v.userId = some u := husers ▸ (runs_stageDeactivate.mp hread).1
    have huid : u.id = v.userId := Table.get?_key hu
    have hstored : s₁.users.get? u.id = some current := hcurrent
    obtain rfl : u = current := Option.some.inj (hu.symm.trans (huid ▸ hstored))
    have hrowid : row.id = v.userId := hrow ▸ huid
    have hinactive : row.isActive = false := by
      rw [hrow]
      exact column_same u.isActive false
    exact ⟨⟨row, Table.get?_set_self hu hrowid, hinactive⟩, hequipped⟩

/-- **A call that has read before the other one goes through all the same**, and then the user has lost access and
has a device. -/
theorem Rivalry.lands_after {s₁ : Db} (ctxs : Bool → Ctx) (hs : s.Coherent) (h : (v.op i).run.Runs ctx s () s₁) :
    ((∃ s₂, v.Lands (!i) (ctxs !i) s s₁ s₂) ↔ ∃ s₂, v.Lands (!i) (ctxs !i) s s s₂) ∧
      ∀ s₂, v.Lands (!i) (ctxs !i) s s₁ s₂ → s₂.LeftEquipped v.userId := by
  cases i with
  | false =>
    obtain ⟨_, h⟩ := runs_discard.mp h
    obtain ⟨u, hu, -, u', hu', -, -, rfl⟩ := UserService.runs_deactivate.mp h
    have hid : u'.id = v.userId := hu' ▸ Table.get?_key hu
    exact Rivalry.equipped_after (hu ▸ Option.some_ne_none u) hid (hu' ▸ rfl)
  | true =>
    have hs₁ : s₁.Coherent := hs.service h
    obtain ⟨_, h⟩ := runs_discard.mp h
    obtain ⟨x, hx, -, -, -, u, hu, -, q, -, -, -, x', hx', -, -, -, rfl⟩ := AssignmentService.runs_directAssign.mp h
    have hkey : x'.id = v.itemId := hx' ▸ Table.get?_key hx
    have hmem : x' ∈ (s.items.set x').rows := Table.get?_mem (Table.get?_set_self hx hkey)
    exact Rivalry.left_after hs hs₁ rfl ⟨x', hmem, hx' ▸ rfl⟩

/-! ### Any order of the steps -/

theorem Db.InactiveHoldNothing.rival (h : s.InactiveHoldNothing) (hs : s.Coherent) :
    ((v.op i).run.exec ctx s).InactiveHoldNothing := by
  have hint : s.Integral := fun r hr => Request.constraints_ok.mp (hs.requests r hr)
  have run : Run Step (fun db e => e.KeepsActiveOnly db) s ((v.op i).run.exec ctx s) :=
    .step .refl (.service ctx (v.op i)) (by cases i <;> trivial) rfl
  refine inactiveHoldNothing_iff.mpr (law_of_run ?_ run hint.sound (inactiveHoldNothing_iff.mp h)).2
  intro db e a c _ hactive hok hperforms hstep
  exact hactive.step hstep (hok.keepsActiveOnly hperforms)

theorem Rivalry.succeeds_iff_lands : (v.op i).run.succeeds ctx s = true ↔ ∃ s₂, v.Lands i ctx s s s₂ := by
  simp only [lands_self, Txn.succeeds_iff]
  constructor
  · rintro ⟨⟨⟩, s₂, h⟩
    exact ⟨s₂, h⟩
  · rintro ⟨s₂, h⟩
    exact ⟨(), s₂, h⟩

theorem Db.InactiveHoldNothing.lands {s₂ : Db} (h : s.InactiveHoldNothing) (hs : s.Coherent)
    (hlands : v.Lands i ctx s s s₂) : s₂.InactiveHoldNothing :=
  (Rivalry.lands_self.mp hlands).exec ▸ h.rival hs

variable {schedule : List Bool}

/-- **Who is deactivated while a device is handed out**: both calls succeed exactly when each would alone and both have
read before either flushes, and exactly then an inactive user has a device. -/
theorem deactivateRaced (v : Rivalry) (ctxs : Bool → Ctx) (hdb : db.Coherent) (h : db.InactiveHoldNothing)
    (hschedule : Complete schedule) :
    let st := (rivalry v ctxs).exec (.start db) schedule
    let both := (st.phase false).succeeded ∧ (st.phase true).succeeded
    (both ↔ Overlap schedule ∧ ∀ i, (v.op i).run.succeeds (ctxs i) db) ∧
    (st.store.InactiveHoldNothing ↔ ¬ both) := by
  intro st both
  obtain ⟨hfirst, hsecond, hstore⟩ := (rivalry v ctxs).exec_complete hschedule db
  have hpair : ∀ (i : Bool) (P : Bool → Prop), (P false ∧ P true) ↔ P i ∧ P !i := by
    intro i P
    cases i
    · rfl
    · exact and_comm
  have hboth : both ↔ (st.phase (firstDone schedule)).succeeded ∧ (st.phase !firstDone schedule).succeeded :=
    hpair (firstDone schedule) fun i => (st.phase i).succeeded
  have halone : (∀ i, (v.op i).run.succeeds (ctxs i) db) ↔ _ :=
    Bool.forall_bool.trans (hpair (firstDone schedule) fun i => (v.op i).run.succeeds (ctxs i) db)
  rw [hboth, halone]
  simp only [st, hfirst, hsecond, hstore, Rivalry.succeeds_iff_lands]
  generalize firstDone schedule = i
  rcases v.settle ctxs i db db with ⟨hok, hlands⟩ | ⟨hnot, hsame, hnone⟩
  · have hruns := Rivalry.lands_self.mp hlands
    by_cases hoverlap : Overlap schedule
    · simp only [if_pos hoverlap]
      obtain ⟨hiff, hleft⟩ := Rivalry.lands_after ctxs hdb hruns
      rcases v.settle ctxs (!i) db ((rivalry v ctxs).settle i db db).2 with ⟨hok', hlands'⟩ | ⟨hnot', hsame', hnone'⟩
      · exact ⟨iff_of_true ⟨hok, hok'⟩ ⟨hoverlap, ⟨_, hlands⟩, hiff.mp ⟨_, hlands'⟩⟩,
          iff_of_false (hleft _ hlands').not_holdNothing (not_not_intro ⟨hok, hok'⟩)⟩
      · refine ⟨iff_of_false (fun hb => hnot' hb.2) fun hall => ?_, iff_of_true ?_ fun hb => hnot' hb.2⟩
        · obtain ⟨s₂, hs₂⟩ := hiff.mpr hall.2.2
          exact hnone' s₂ hs₂
        · rw [hsame']
          exact h.lands hdb hlands
    · simp only [if_neg hoverlap]
      rcases v.settle ctxs (!i) ((rivalry v ctxs).settle i db db).2 ((rivalry v ctxs).settle i db db).2 with
        ⟨hok', hlands'⟩ | ⟨hnot', hsame', hnone'⟩
      · exact absurd (Rivalry.lands_self.mp hlands') (Rivalry.refused_after hruns)
      · refine ⟨iff_of_false (fun hb => hnot' hb.2) fun hall => hoverlap hall.1, iff_of_true ?_ fun hb => hnot' hb.2⟩
        rw [hsame']
        exact h.lands hdb hlands
  · rw [hsame, ite_self]
    refine ⟨iff_of_false (fun hb => hnot hb.1) fun ⟨_, ⟨s₂, hs₂⟩, _⟩ => hnone s₂ hs₂,
      iff_of_true ?_ fun hb => hnot hb.1⟩
    rcases v.settle ctxs (!i) db db with ⟨-, hlands'⟩ | ⟨-, hsame', -⟩
    · exact h.lands hdb hlands'
    · rw [hsame']
      exact h

/-- Laptop 1 belongs to a client and is available; employee 1 waits for nothing. -/
def Sample.idleStore : Db :=
  { Sample.clientStore with requests := ⟨[Sample.request 2 2 .assigned (some 2)], List.nodup_singleton _⟩ }

/-- Employee 1 is deactivated, and gets laptop 1. -/
def Sample.rivalry : Rivalry where
  userId := 1
  itemId := 1
  assignedFrom := 0
  assignedTo := 10
  actorId := 9

theorem deactivateRaced_overlap :
    let st := (rivalry Sample.rivalry fun _ => Sample.ctx).exec (.start Sample.idleStore) [true, false, false, true]
    ((st.phase false).succeeded ∧ (st.phase true).succeeded) ∧ ¬ st.store.InactiveHoldNothing := by
  obtain ⟨hboth, hstore⟩ := deactivateRaced Sample.rivalry (fun _ => Sample.ctx) (by decide : Sample.idleStore.Coherent)
    (by decide) (by decide : Complete [true, false, false, true])
  have hall : Overlap [true, false, false, true] ∧
      ∀ i, (Sample.rivalry.op i).run.succeeds Sample.ctx Sample.idleStore := by
    refine ⟨by decide, fun i => ?_⟩
    cases i <;> rfl
  exact ⟨hboth.mpr hall, fun hnothing => hstore.mp hnothing (hboth.mpr hall)⟩

end AssetPilot
