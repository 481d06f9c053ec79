import AssetPilot.Concurrency.Consistency
import AssetPilot.Lib.Interleaving

/-!
# What the two steps do

The read step of each call inverted into the guards it passed and what it staged, and the commit step
into the constraints it passed and the rows it left.
-/

namespace AssetPilot

open Relational Txn
open SQLAlchemyRepository (stored flushed born)
open DeviceLogService (AppendArgs append)
open AssignmentService RequestService

variable {ctx : Ctx} {db db' : Db} {e : Failure} {u : UnitOfWork}

/-! ### Reading -/

theorem runs_stageAssign {requestId itemId actorId : UUID} {f t : Datetime} {wfh : Bool} :
    (stageAssign requestId itemId f t wfh actorId).Runs ctx db u db' ↔
      ∃ request, db.requests.get? requestId = some request ∧ request.status = .pendingItApproval ∧
        ∃ item, db.items.get? itemId = some item ∧ item.status = .available ∧
        item.categoryId = request.categoryId ∧
        (∀ x ∈ db.requests.rows, x.Overlaps itemId f t → request.id = x.id) ∧
        u = .handOver (.update request (assignedRequest request itemId f t wfh actorId (ctx.clock 0)))
          item (handedItem item request.requesterId) (handedLog .assigned item.id request.id actorId) ∧
        db' = db := by
  simp [stageAssign, and_assoc]

theorem runs_stageDirectAssign {itemId employeeId actorId : UUID} {f t : Datetime} :
    (stageDirectAssign itemId employeeId f t actorId).Runs ctx db u db' ↔
      ∃ item, db.items.get? itemId = some item ∧ item.ownerType = .client ∧ item.status = .available ∧
        (∀ x ∈ db.requests.rows, ¬ x.Overlaps itemId f t) ∧
        ∃ employee, db.users.get? employeeId = some employee ∧ employee.isActive = true ∧
        u = .handOver
          (.create (directRequest (ctx.uuid4 0) itemId item.categoryId employeeId f t actorId (ctx.clock 0)))
          item (handedItem item employeeId) (handedLog .clientAssigned item.id (ctx.uuid4 0) actorId) ∧
        db' = db := by
  simp [stageDirectAssign, and_assoc]

theorem runs_stageReject {requestId actorId : UUID} {reason : String} {note : Option String} :
    (stageReject requestId reason note actorId).Runs ctx db u db' ↔
      ∃ request, db.requests.get? requestId = some request ∧ request.status = .pendingItApproval ∧
        db' = db ∧ u = .decision request (rejectedRequest request reason note actorId (ctx.clock 0)) := by
  simp [stageReject]

theorem runs_stageCancel {requestId actorId : UUID} {reason : String} :
    (stageCancel requestId reason actorId).Runs ctx db u db' ↔
      ∃ request, db.requests.get? requestId = some request ∧ request.status ∉ _TERMINAL_STATUSES ∧
        db' = db ∧ u = .decision request (cancelledRequest request reason actorId (ctx.clock 0)) := by
  simp [stageCancel]

theorem runs_stageEscalateToManager {requestId : UUID} {managerId : Option UUID} :
    (stageEscalateToManager requestId managerId).Runs ctx db u db' ↔
      ∃ request, db.requests.get? requestId = some request ∧
        (request.status = .pendingItApproval ∧ request.requiresMgrApproval = false) ∧
        db' = db ∧
        u = .decision request (escalatedRequest request (resolvedManager db request managerId)) := by
  simp [stageEscalateToManager]

theorem Call.stage_eq {c : Call} (h : c.stage.Runs ctx db u db') : db' = db := by
  cases c with
  | assign =>
    obtain ⟨_, -, -, _, -, -, -, -, -, rfl⟩ := runs_stageAssign.mp h
    rfl
  | directAssign =>
    obtain ⟨_, -, -, -, -, _, -, -, -, rfl⟩ := runs_stageDirectAssign.mp h
    rfl
  | reject =>
    obtain ⟨_, -, -, rfl, -⟩ := runs_stageReject.mp h
    rfl
  | cancel =>
    obtain ⟨_, -, -, rfl, -⟩ := runs_stageCancel.mp h
    rfl
  | escalateToManager =>
    obtain ⟨_, -, -, rfl, -⟩ := runs_stageEscalateToManager.mp h
    rfl

theorem failsOnly_getItemOr404 {id : UUID} : FailsOnly Failure.IsApp (getItemOr404 id) := by
  intro ctx db e h
  simp only [getItemOr404, fails_bind, ItemRepository.fails_getById, fails_orRaise, false_or] at h
  obtain ⟨_, _, -, -, rfl⟩ := h
  exact Failure.isApp_notFound _

theorem failsOnly_getRequestOr404 {id : UUID} :
    FailsOnly Failure.IsApp (AssignmentService.getRequestOr404 id) :=
  fun _ _ _ h => (fails_getRequestOr404.mp h).2 ▸ Failure.isApp_notFound _

theorem failsOnly_hasOverlappingAssignedBooking {id : UUID} {f t : Datetime} {ex : Option UUID} :
    FailsOnly Failure.IsApp (RequestRepository.hasOverlappingAssignedBooking id f t ex) :=
  fun _ _ _ h => (RequestRepository.fails_hasOverlappingAssignedBooking.mp h).elim

theorem failsOnly_stageAssign {requestId itemId actorId : UUID} {f t : Datetime} {wfh : Bool} :
    FailsOnly Failure.IsApp (stageAssign requestId itemId f t wfh actorId) :=
  .bind failsOnly_getRequestOr404 fun _ =>
  .bind (failsOnly_raiseIf (Failure.isApp_conflict _)) fun _ =>
  .bind failsOnly_getItemOr404 fun _ =>
  .bind (failsOnly_raiseIf (Failure.isApp_conflict _)) fun _ =>
  .bind (failsOnly_raiseIf (Failure.isApp_validation _)) fun _ =>
  .bind failsOnly_hasOverlappingAssignedBooking fun _ =>
  .bind (failsOnly_raiseIf (Failure.isApp_conflict _)) fun _ =>
  .bind (fun _ _ _ h => (fails_utcNow.mp h).elim) fun _ =>
  failsOnly_pure _

theorem failsOnly_stageDirectAssign {itemId employeeId actorId : UUID} {f t : Datetime} :
    FailsOnly Failure.IsApp (stageDirectAssign itemId employeeId f t actorId) :=
  .bind failsOnly_getItemOr404 fun _ =>
  .bind (failsOnly_raiseIf (Failure.isApp_validation _)) fun _ =>
  .bind (failsOnly_raiseIf (Failure.isApp_conflict _)) fun _ =>
  .bind failsOnly_hasOverlappingAssignedBooking fun _ =>
  .bind (failsOnly_raiseIf (Failure.isApp_conflict _)) fun _ =>
  .bind (fun _ _ _ h => (UserRepository.fails_getById.mp h).elim) fun _ =>
  .bind (failsOnly_orRaise (Failure.isApp_notFound _)) fun _ =>
  .bind (failsOnly_raiseIf (Failure.isApp_conflict _)) fun _ =>
  .bind (fun _ _ _ h => (fails_utcNow.mp h).elim) fun _ =>
  .bind (fun _ _ _ h => (fails_uuid4.mp h).elim) fun _ =>
  failsOnly_pure _

/-! ### Committing -/

section
variable {α : Type} [Keyed α UUID] [Model α] [DecidableEq α] [Columns α] {loaded changed row : α}

theorem runs_updateColumns : (updateColumns loaded changed).Runs ctx db row db' ↔
    ∃ current, stored db loaded = some current ∧ Model.constraints db row = .ok () ∧
      row = overlaid ctx loaded changed current ∧ db' = Model.setRow db row := by
  simp only [updateColumns, runs_bind, runs_ask, runs_get, runs_orRaise, runs_check, runs_modify, runs_pure]
  grind

theorem fails_updateColumns : (updateColumns loaded changed).Fails ctx db e ↔
    (stored db loaded = none ∧ e = .staleDataError) ∨
      ∃ current, stored db loaded = some current ∧
        Model.constraints db (overlaid ctx loaded changed current) = .error e := by
  simp only [updateColumns, fails_bind, runs_ask, runs_get, fails_ask, fails_get, runs_orRaise,
    fails_orRaise, fails_check, runs_check, fails_modify, fails_pure]
  grind

end

/-- The answer of `assign` and `direct_assign` to an `IntegrityError` of their flush. -/
def raced : Failure → Failure :=
  integrityErrorAsConflict "This device was just assigned to another active request."

theorem runs_handOver {request : RequestWrite} {i c : Item} {log : AppendArgs} {row : Request} :
    (UnitOfWork.handOver request i c log).commit.Runs ctx db row db' ↔
      ∃ db₁, request.flush.Runs ctx db row db₁ ∧ ∃ i' db₂, (updateColumns i c).Runs ctx db₁ i' db₂ ∧
        db₂.DeviceLogIntegral log.row ∧ db' = db₂.appendLog (log.written ctx) := by
  simp only [UnitOfWork.commit, runs_bind, runs_mapFailure, runs_pure, DeviceLogService.runs_append]
  grind

theorem fails_handOver {request : RequestWrite} {i c : Item} {log : AppendArgs} :
    (UnitOfWork.handOver request i c log).commit.Fails ctx db e ↔
      (∃ e', request.flush.Fails ctx db e' ∧ e = raced e') ∨
      ∃ row db₁, request.flush.Runs ctx db row db₁ ∧
        ((∃ e', (updateColumns i c).Fails ctx db₁ e' ∧ e = raced e') ∨
          ∃ i' db₂, (updateColumns i c).Runs ctx db₁ i' db₂ ∧ ¬ db₂.DeviceLogIntegral log.row ∧
            e = .integrityError) := by
  have hraced : ∀ e', integrityErrorAsConflict _ e' = raced e' := fun _ => rfl
  simp only [UnitOfWork.commit, fails_bind, fails_mapFailure, runs_mapFailure, runs_bind, runs_pure,
    fails_pure, DeviceLogService.fails_append, hraced]
  grind

/-- Over the row it has loaded, the `UPDATE` is that of the whole row. -/
theorem flush_update {r c row : Request} (h : (RequestWrite.update r c).flush.Runs ctx db row db')
    (hr : db.requests.get? r.id = some r) (hid : c.id = r.id) (htouch : c.updatedAt = r.updatedAt) :
    db.RequestIntegral row ∧ row = flushed ctx db c ∧ db' = db.setRequest row := by
  have hwhole : (RequestRepository.update c).Runs ctx db row db' :=
    (Request.updateColumns_of_get? hr hid htouch).symm.trans h
  obtain ⟨hok, hrow, hdb⟩ := RequestRepository.runs_update.mp hwhole
  exact ⟨Request.constraints_ok.mp hok, hrow, hdb⟩

theorem fails_flush_update {r c : Request} (h : (RequestWrite.update r c).flush.Fails ctx db e)
    (hr : db.requests.get? r.id = some r) (hid : c.id = r.id) (htouch : c.updatedAt = r.updatedAt) :
    e = .integrityError := by
  have hwhole : (RequestRepository.update c).Fails ctx db e :=
    (Request.updateColumns_of_get? hr hid htouch).symm.trans h
  rcases constraintCheck_error.mp (RequestRepository.fails_update.mp hwhole) with ⟨hfits, -⟩ | ⟨-, -, he⟩
  · exact absurd trivial hfits
  · exact he

theorem runs_flush_create {r row : Request} :
    (RequestWrite.create r).flush.Runs ctx db row db' ↔
      db.requests.get? r.id = none ∧ db.RequestIntegral row ∧ row = born ctx r ∧
        db' = db.addRequest row := by
  rw [← Request.constraints_ok]
  exact RequestRepository.runs_create

theorem fails_flush_create {r : Request} (h : (RequestWrite.create r).flush.Fails ctx db e) :
    e = .integrityError := by
  rcases SQLAlchemyRepository.fails_create.mp h with ⟨-, he⟩ | ⟨-, he⟩
  · exact he
  · rcases constraintCheck_error.mp he with ⟨hfits, -⟩ | ⟨-, -, he⟩
    · exact absurd trivial hfits
    · exact he

theorem overlaid_handedItem {x current : Item} {ownerId : UUID} (h : x.status = .available) :
    overlaid ctx x (handedItem x ownerId) current =
      { current with
        status := .assigned
        currentOwnerId := column x.currentOwnerId (some ownerId) current.currentOwnerId
        updatedAt := ctx.txTime } := by
  have hne : handedItem x ownerId ≠ x := fun he => by
    have hstatus := congrArg Item.status he
    rw [h] at hstatus
    cases hstatus
  have hstatus : column x.status (.assigned : DeviceStatus) current.status = .assigned := by
    rw [h]
    rfl
  rw [overlaid, if_neg hne]
  simp only [Columns.overlay, handedItem, column_unchanged, textColumn_unchanged, textColumn?_unchanged, Model.touch,
    hstatus]

theorem handedLog_integral {event : DeviceLogEvent} {itemId requestId actorId : UUID} :
    db.DeviceLogIntegral (handedLog event itemId requestId actorId).row ↔
      db.items.get? itemId ≠ none ∧ db.users.get? actorId ≠ none ∧ db.requests.get? requestId ≠ none := by
  simp [Db.DeviceLogIntegral, handedLog, AppendArgs.row, Table.References]

/-! ### Calls at the same time -/

variable {ι : Type}

/-- The calls, each in its own session. -/
def concurrently (calls : ι → Call) (ctx : ι → Ctx) :
    Interleaving.Calls ι Db UnitOfWork Failure Request where
  read i db := ((calls i).stage (ctx i) db).map Prod.fst
  commit i staged db := staged.commit (ctx i) db

variable {calls : ι → Call} {ctxs : ι → Ctx} {i : ι}

theorem concurrently_read_ok :
    (concurrently calls ctxs).read i db = .ok u ↔ (calls i).stage.Runs (ctxs i) db u db := by
  have hstage := fun u' db' => @Call.stage_eq (ctxs i) db db' u' (calls i)
  unfold Runs at hstage ⊢
  show ((calls i).stage (ctxs i) db).map Prod.fst = _ ↔ _
  rcases hrun : (calls i).stage (ctxs i) db with e | ⟨u', db'⟩
  · simp [Except.map]
  · obtain rfl := hstage u' db' hrun
    simp [Except.map]

theorem concurrently_read_error :
    (concurrently calls ctxs).read i db = .error e ↔ (calls i).stage.Fails (ctxs i) db e := by
  unfold Fails
  show ((calls i).stage (ctxs i) db).map Prod.fst = _ ↔ _
  rcases (calls i).stage (ctxs i) db with e' | ⟨u', db'⟩ <;> simp [Except.map]

end AssetPilot
