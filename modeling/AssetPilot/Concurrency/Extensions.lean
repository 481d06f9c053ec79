import AssetPilot.Concurrency.Commits
import AssetPilot.Invariants.Answers
import AssetPilot.Lib.Latch

/-!
# Concurrent decisions on one extension

`approve` and `reject` check that the extension is pending, and lock nothing. So every decision goes through that has
read it pending before the first one commits: each moves the columns that it has changed, and each writes its own log
entry.
-/

namespace AssetPilot

open Relational Txn Interleaving
open SQLAlchemyRepository (flushed)
open DeviceLogService (AppendArgs append)

variable {ctx : Ctx} {db db' s s' : Db} {e : Failure}

/-- The stored row `x` under the columns in which `c` differs from `l`. -/
instance : Columns ExtensionRequest where
  overlay l c x := {
    id := x.id
    originalRequestId := column l.originalRequestId c.originalRequestId x.originalRequestId
    requesterId := column l.requesterId c.requesterId x.requesterId
    currentAssignedTo := column l.currentAssignedTo c.currentAssignedTo x.currentAssignedTo
    extendedTo := column l.extendedTo c.extendedTo x.extendedTo
    status := column l.status c.status x.status
    requiresMgrApproval := column l.requiresMgrApproval c.requiresMgrApproval x.requiresMgrApproval
    managerId := column l.managerId c.managerId x.managerId
    mgrApprovalStatus := column l.mgrApprovalStatus c.mgrApprovalStatus x.mgrApprovalStatus
    managerNote := column l.managerNote c.managerNote x.managerNote
    managerDecidedAt := column l.managerDecidedAt c.managerDecidedAt x.managerDecidedAt
    itDecidedBy := column l.itDecidedBy c.itDecidedBy x.itDecidedBy
    itNote := column l.itNote c.itNote x.itNote
    itDecidedAt := column l.itDecidedAt c.itDecidedAt x.itDecidedAt
    createdAt := column l.createdAt c.createdAt x.createdAt
    updatedAt := column l.updatedAt c.updatedAt x.updatedAt }

theorem ExtensionRequest.updateColumns_of_get? {x c : ExtensionRequest} (h : db.extensionRequests.get? x.id = some x)
    (hid : c.id = x.id) (htouch : c.updatedAt = x.updatedAt) :
    updateColumns x c ctx db = ExtensionRequestRepository.update c ctx db :=
  updateColumns_of_stored h hid htouch (by simp [Columns.overlay, Model.assign, ← hid])

namespace ExtensionService

/-! ### The two steps -/

/-- A decision on an extension. -/
inductive Decision
  | approve (itNote : Option String) (actorId : UUID)
  | reject (itNote : Option String) (actorId : UUID)

/-- The service operation. -/
def Decision.run (extensionRequestId : UUID) : Decision → Service ExtensionRequest
  | .approve itNote actorId => ExtensionService.approve extensionRequestId itNote actorId
  | .reject itNote actorId => ExtensionService.reject extensionRequestId itNote actorId

/-- The rows that a decision has loaded. -/
structure Loaded where
  extension : ExtensionRequest
  parent : Request

/-- The decision up to its first flush. -/
def Decision.stage (extensionRequestId : UUID) : Decision → Service Loaded
  | .approve .. => do
    let extensionRequest ← getExtensionOr404 extensionRequestId
    raiseIf (extensionRequest.status ≠ .pending)
      (conflictException "Only pending extension requests can be approved.")
    raiseIf (extensionRequest.mgrApprovalStatus ∉ _MGR_APPROVAL_STATUSES_ALLOWING_IT_APPROVAL)
      (conflictException "This extension is awaiting manager approval and cannot be approved yet.")
    let parentRequest ← getParentRequestOr404 extensionRequest.originalRequestId
    return ⟨extensionRequest, parentRequest⟩
  | .reject .. => do
    let extensionRequest ← getExtensionOr404 extensionRequestId
    raiseIf (extensionRequest.status ≠ .pending)
      (conflictException "Only pending extension requests can be rejected.")
    let parentRequest ← getParentRequestOr404 extensionRequest.originalRequestId
    return ⟨extensionRequest, parentRequest⟩

/-- The parent request with the end that the extension asks for. -/
def extendedParent (r : Request) (x : ExtensionRequest) : Request := { r with assignedTo := some x.extendedTo }

/-- The flushes of a decision, with the rows as it has loaded them. -/
def Decision.commit (loaded : Loaded) : Decision → Service ExtensionRequest
  | .approve itNote actorId => do
    let parentRequest ← updateColumns loaded.parent (extendedParent loaded.parent loaded.extension)
    let now ← utcNow 0
    let updated ← updateColumns loaded.extension (decidedExtension loaded.extension .approved itNote actorId now)
    let assignedItemId ← orRaise parentRequest.assignedItemId .assertionError
    let _ ← append (decisionLog .extensionApproved assignedItemId parentRequest.id updated.id actorId)
    return updated
  | .reject itNote actorId => do
    let now ← utcNow 0
    let updated ← updateColumns loaded.extension (decidedExtension loaded.extension .rejected itNote actorId now)
    let assignedItemId ← orRaise loaded.parent.assignedItemId .assertionError
    let _ ← append (decisionLog .extensionRejected assignedItemId loaded.parent.id updated.id actorId)
    return updated

/-- **Flushed right after its read, a decision is the service operation.** -/
theorem Decision.run_eq (d : Decision) (id : UUID) : d.run id = d.stage id >>= fun loaded => d.commit loaded := by
  funext ctx db
  cases d with
  | approve itNote actorId =>
    simp only [run, stage, commit, ExtensionService.approve, Txn.bind_assoc, Txn.pure_bind]
    refine bind_congr_runs fun x _ h => bind_congr_runs fun _ _ h₁ => bind_congr_runs fun _ _ h₂ =>
      bind_congr_runs fun r db' h₃ => ?_
    obtain ⟨hx, rfl⟩ := runs_getExtensionOr404.mp h
    obtain ⟨-, rfl⟩ := runs_raiseIf.mp h₁
    obtain ⟨-, rfl⟩ := runs_raiseIf.mp h₂
    obtain ⟨hr, rfl⟩ := runs_getParentRequestOr404.mp h₃
    obtain rfl : x.id = id := Table.get?_key hx
    have hparent : db'.requests.get? r.id = some r := by
      rw [← Table.get?_key hr] at hr
      exact hr
    have hflush : updateColumns r (extendedParent r x) ctx db' =
        RequestRepository.update (extendedParent r x) ctx db' := Request.updateColumns_of_get? hparent rfl rfl
    refine (bind_congr_left hflush.symm).trans ?_
    refine bind_congr_runs fun row db₁ hrow => bind_congr_runs fun now db₂ hnow => bind_congr_left ?_
    obtain ⟨-, rfl⟩ := runs_utcNow.mp hnow
    rw [Runs, hflush] at hrow
    obtain ⟨-, -, rfl⟩ := RequestRepository.runs_update.mp hrow
    have hx' : (db'.setRequest row).extensionRequests.get? x.id = some x := hx
    exact (ExtensionRequest.updateColumns_of_get? (c := decidedExtension x .approved itNote actorId now) hx' rfl
      rfl).symm
  | reject itNote actorId =>
    simp only [run, stage, commit, ExtensionService.reject, Txn.bind_assoc, Txn.pure_bind]
    refine bind_congr_runs fun x _ h => bind_congr_runs fun _ _ h₁ => bind_congr_runs fun r _ h₂ =>
      bind_congr_runs fun now db' h₃ => bind_congr_left ?_
    obtain ⟨hx, rfl⟩ := runs_getExtensionOr404.mp h
    obtain ⟨-, rfl⟩ := runs_raiseIf.mp h₁
    obtain ⟨-, rfl⟩ := runs_getParentRequestOr404.mp h₂
    obtain ⟨-, rfl⟩ := runs_utcNow.mp h₃
    obtain rfl : x.id = id := Table.get?_key hx
    exact (ExtensionRequest.updateColumns_of_get? (c := decidedExtension x .rejected itNote actorId now) hx rfl
      rfl).symm

/-! ### What the decisions leave -/

def Decision.status : Decision → ExtensionStatus
  | .approve .. => .approved
  | .reject .. => .rejected

def Decision.event : Decision → DeviceLogEvent
  | .approve .. => .extensionApproved
  | .reject .. => .extensionRejected

def Decision.itNote : Decision → Option String
  | .approve itNote _ | .reject itNote _ => itNote

def Decision.actor : Decision → UUID
  | .approve _ actorId | .reject _ actorId => actorId

def Decision.approves : Decision → Bool
  | .approve .. => true
  | .reject .. => false

/-- What else the extension has to allow. -/
def Decision.AllowedOn (x : ExtensionRequest) : Decision → Prop
  | .approve .. => x.mgrApprovalStatus ∈ _MGR_APPROVAL_STATUSES_ALLOWING_IT_APPROVAL
  | .reject .. => True

variable {ι : Type} {calls : ι → Decision} {ctxs : ι → Ctx} {x : ExtensionRequest} {r : Request} {itemId : UUID}

/-- The note: that of the last decision with one that differs from what all of them have loaded. -/
def noteAfter (x : ExtensionRequest) (calls : ι → Decision) (won : List ι) : Option String :=
  won.foldl (fun note i => column x.itNote (calls i).itNote note) x.itNote

/-- The end of the parent's booking. -/
def endAfter (x : ExtensionRequest) (r : Request) (calls : ι → Decision) (won : List ι) : Option Datetime :=
  if won.any fun i => (calls i).approves then some x.extendedTo else r.assignedTo

def parentAfter (x : ExtensionRequest) (r : Request) (calls : ι → Decision) (won : List ι) (t : Datetime) : Request :=
  { r with assignedTo := endAfter x r calls won, updatedAt := t }

/-- The extension: the last decision with the last note. -/
def extensionAfter (x : ExtensionRequest) (calls : ι → Decision) (ctxs : ι → Ctx) (won : List ι) (t : Datetime) :
    ExtensionRequest :=
  { x with
    status := (won.getLast?.map fun i => (calls i).status).getD x.status
    itDecidedBy := (won.getLast?.map fun i => (calls i).actor).or x.itDecidedBy
    itNote := noteAfter x calls won
    itDecidedAt := (won.getLast?.map fun i => (ctxs i).clock 0).or x.itDecidedAt
    updatedAt := t }

/-- The store after the decisions `won` on the extension `x` of the request `r`. -/
structure Ruled (db : Db) (x : ExtensionRequest) (r : Request) (itemId : UUID) (calls : ι → Decision)
    (ctxs : ι → Ctx) (won : List ι) (s : Db) : Prop where
  extension : ∃ t, s.extensionRequests.get? x.id = some (extensionAfter x calls ctxs won t)
  parent : ∃ t, s.requests.get? r.id = some (parentAfter x r calls won t)
  log : s.deviceLog = db.deviceLog ++
    won.map fun i => (decisionLog (calls i).event itemId r.id x.id (calls i).actor).written (ctxs i)
  otherExtensions : ∀ k, k ≠ x.id → s.extensionRequests.get? k = db.extensionRequests.get? k
  otherRequests : ∀ k, k ≠ r.id → s.requests.get? k = db.requests.get? k
  untouched : s.categories = db.categories ∧ s.users = db.users ∧ s.items = db.items ∧
    s.supportRequests = db.supportRequests ∧ s.handoverRequests = db.handoverRequests

/-! ### One decision more -/

variable {won : List ι} {i : ι}

theorem endAfter_approve (h : (calls i).approves = true) : endAfter x r calls (won ++ [i]) = some x.extendedTo := by
  simp [endAfter, h]

theorem endAfter_reject (h : (calls i).approves = false) :
    endAfter x r calls (won ++ [i]) = endAfter x r calls won := by
  simp [endAfter, h]

/-- Over a row that approvals alone have moved, an approval sets the end that it asks for. -/
theorem overlaid_extendedParent (ctx : Ctx) (h : (calls i).approves = true) (t : Datetime) : ∃ t',
    overlaid ctx r (extendedParent r x) (parentAfter x r calls won t) = parentAfter x r calls (won ++ [i]) t' := by
  simp only [parentAfter, endAfter_approve h]
  by_cases hsame : r.assignedTo = some x.extendedTo
  · have hloaded : extendedParent r x = r := by
      rw [extendedParent, ← hsame]
    have hend : endAfter x r calls won = some x.extendedTo := by
      unfold endAfter
      split
      · rfl
      · exact hsame
    refine ⟨t, ?_⟩
    simp only [overlaid, hloaded, if_true, Columns.overlay, column_unchanged, Model.touch, Model.updatedAt, hend]
  · have hne : extendedParent r x ≠ r := fun he => hsame (congrArg Request.assignedTo he).symm
    refine ⟨ctx.txTime, ?_⟩
    have hcolumn : column r.assignedTo (some x.extendedTo) (endAfter x r calls won) = some x.extendedTo :=
      if_neg fun he => hsame he.symm
    rw [overlaid, if_neg hne]
    simp only [Columns.overlay, extendedParent, column_unchanged, Model.touch, hcolumn]

theorem Decision.status_ne_pending (d : Decision) : d.status ≠ .pending := by
  cases d <;> exact ExtensionStatus.noConfusion

/-- A decision on what it has loaded pending and undecided sets its own columns, and its note if that is another. -/
theorem overlaid_decidedExtension (hpending : x.status = .pending)
    (hundecided : x.itDecidedBy = none ∧ x.itDecidedAt = none) (t : Datetime) :
    overlaid (ctxs i) x
        (decidedExtension x (calls i).status (calls i).itNote (calls i).actor ((ctxs i).clock 0))
        (extensionAfter x calls ctxs won t) =
      extensionAfter x calls ctxs (won ++ [i]) (ctxs i).txTime := by
  have hne : (calls i).status ≠ x.status := hpending ▸ (calls i).status_ne_pending
  have hchanged : ∀ note by' at', ¬ decidedExtension x (calls i).status note by' at' = x := fun _ _ _ he =>
    hne (congrArg ExtensionRequest.status he)
  have hstatus : ∀ status, column x.status (calls i).status status = (calls i).status := fun _ => if_neg hne
  have hby : ∀ by' : Option UUID, column none (some (calls i).actor) by' = some (calls i).actor := fun _ => rfl
  have hat : ∀ at' : Option Datetime, column none (some ((ctxs i).clock 0)) at' = some ((ctxs i).clock 0) :=
    fun _ => rfl
  rw [overlaid, if_neg (hchanged _ _ _)]
  simp [Columns.overlay, decidedExtension, extensionAfter, noteAfter, Model.touch, hstatus, hundecided, hby, hat]

theorem runs_extendedParent (ctx : Ctx) {t : Datetime} (hs : s.Coherent) (h : (calls i).approves = true)
    (hparent : s.requests.get? r.id = some (parentAfter x r calls won t)) : ∃ t',
    let r' := parentAfter x r calls (won ++ [i]) t'
    (updateColumns r (extendedParent r x)).Runs ctx s r' (s.setRequest r') ∧ (s.setRequest r').Coherent := by
  obtain ⟨t', hrow⟩ := overlaid_extendedParent ctx h t
  have hok : Model.constraints s (parentAfter x r calls (won ++ [i]) t') = .ok () :=
    hs.request_ok hparent rfl (.inr ⟨rfl, rfl⟩) id
  exact ⟨t', runs_updateColumns.mpr ⟨_, hparent, hok, hrow.symm, rfl⟩, hs.setRequest hok⟩

theorem runs_decidedExtension {t : Datetime} (hs : s.Coherent) (hpending : x.status = .pending)
    (hundecided : x.itDecidedBy = none ∧ x.itDecidedAt = none) (hactor : s.users.References (some (calls i).actor))
    (hx : s.extensionRequests.get? x.id = some (extensionAfter x calls ctxs won t)) :
    let x' := extensionAfter x calls ctxs (won ++ [i]) (ctxs i).txTime
    (updateColumns x
        (decidedExtension x (calls i).status (calls i).itNote (calls i).actor ((ctxs i).clock 0))).Runs (ctxs i) s x'
      (s.setExtensionRequest x') ∧ (s.setExtensionRequest x').Coherent := by
  intro x'
  obtain ⟨hparent, hrequester, hmanager, -⟩ :=
    ExtensionRequest.constraints_iff.mp (hs.extensionRequests _ (Table.get?_mem hx))
  have hby : x'.itDecidedBy = some (calls i).actor := by simp [x', extensionAfter]
  have hok : Model.constraints s x' = .ok () :=
    ExtensionRequest.constraints_iff.mpr ⟨hparent, hrequester, hmanager, hby ▸ hactor⟩
  refine ⟨runs_updateColumns.mpr ⟨_, hx, hok, ?_, rfl⟩, hs.setExtensionRequest hok⟩
  exact (overlaid_decidedExtension hpending hundecided t).symm

theorem Ruled.finish {t : Datetime} (h : Ruled db x r itemId calls ctxs won s)
    (hs : (s.setRequest (parentAfter x r calls (won ++ [i]) t)).Coherent) (hpending : x.status = .pending)
    (hundecided : x.itDecidedBy = none ∧ x.itDecidedAt = none) (hitem : r.assignedItemId = some itemId)
    (hactor : db.users.References (some (calls i).actor)) :
    let s₁ := s.setRequest (parentAfter x r calls (won ++ [i]) t)
    let log := decisionLog (calls i).event itemId r.id x.id (calls i).actor
    let x' := extensionAfter x calls ctxs (won ++ [i]) (ctxs i).txTime
    (updateColumns x
        (decidedExtension x (calls i).status (calls i).itNote (calls i).actor ((ctxs i).clock 0))).Runs (ctxs i) s₁ x'
      (s₁.setExtensionRequest x') ∧
    (s₁.setExtensionRequest x').DeviceLogIntegral log.row ∧
    Ruled db x r itemId calls ctxs (won ++ [i]) ((s₁.setExtensionRequest x').appendLog (log.written (ctxs i))) ∧
    ((s₁.setExtensionRequest x').appendLog (log.written (ctxs i))).Coherent := by
  intro s₁ log x'
  obtain ⟨⟨t₀, hx⟩, ⟨t₁, hr⟩, hlog, hothers, hrequests, hsame⟩ := h
  have hparent : s₁.requests.get? r.id = some (parentAfter x r calls (won ++ [i]) t) := Table.get?_set_self hr rfl
  have husers : s₁.users.References (some (calls i).actor) := by
    show s.users.References _
    exact hsame.2.1 ▸ hactor
  have hx₁ : s₁.extensionRequests.get? x.id = some (extensionAfter x calls ctxs won t₀) := hx
  obtain ⟨hflush, hcoherent⟩ := runs_decidedExtension hs hpending hundecided husers hx₁
  refine ⟨hflush, ?_, ?_, hcoherent.appendLog _⟩
  · have hdevice : s₁.items.References r.assignedItemId :=
      (Request.constraints_iff.mp (hs.requests _ (Table.get?_mem hparent))).2.2.2.1
    refine ⟨hitem ▸ hdevice, husers, Table.references_of_get? hparent, Table.references_none, ?_,
      Table.references_none⟩
    exact Table.references_set.mpr (Table.references_of_get? hx)
  · refine ⟨⟨(ctxs i).txTime, Table.get?_set_self hx rfl⟩, ⟨t, hparent⟩, ?_, fun k hk => ?_, fun k hk => ?_, hsame⟩
    · simp [s₁, Db.appendLog, Db.setExtensionRequest, Db.setRequest, hlog, log]
    · exact (Table.get?_set_of_ne hk).trans (hothers k hk)
    · exact (Table.get?_set_of_ne hk).trans (hrequests k hk)

/-- **A decision that has loaded the extension pending commits**, whatever has been decided meanwhile. -/
theorem Ruled.commit (h : Ruled db x r itemId calls ctxs won s) (hs : s.Coherent) (hpending : x.status = .pending)
    (hundecided : x.itDecidedBy = none ∧ x.itDecidedAt = none) (hitem : r.assignedItemId = some itemId)
    (hactor : db.users.References (some (calls i).actor)) :
    ∃ row s', ((calls i).commit ⟨x, r⟩).Runs (ctxs i) s row s' ∧ Ruled db x r itemId calls ctxs (won ++ [i]) s' ∧
      s'.Coherent := by
  obtain ⟨t, hr⟩ := h.parent
  cases hcall : calls i with
  | approve note actorId =>
    have happroves : (calls i).approves = true := by rw [hcall]; rfl
    obtain ⟨t', hflush, hs'⟩ := runs_extendedParent (ctxs i) hs happroves hr
    obtain ⟨hdecide, hintegral, hdecided, hcoherent⟩ := h.finish hs' hpending hundecided hitem hactor
    refine ⟨extensionAfter x calls ctxs (won ++ [i]) (ctxs i).txTime, _, ?_, hdecided, hcoherent⟩
    rw [hcall] at hdecide hintegral ⊢
    simp only [Decision.commit, runs_bind, runs_utcNow, runs_orRaise, DeviceLogService.runs_append, runs_pure]
    exact ⟨_, _, hflush, _, _, ⟨rfl, rfl⟩, _, _, hdecide, _, _, ⟨hitem, rfl⟩, _, _, ⟨hintegral, rfl, rfl⟩, rfl, rfl⟩
  | reject note actorId =>
    have hrejects : (calls i).approves = false := by rw [hcall]; rfl
    have hsame : parentAfter x r calls (won ++ [i]) t = parentAfter x r calls won t := by
      rw [parentAfter, endAfter_reject hrejects, parentAfter]
    have hset : s.setRequest (parentAfter x r calls (won ++ [i]) t) = s := by
      rw [hsame, Db.setRequest, Table.set_of_get? hr]
    obtain ⟨hdecide, hintegral, hdecided, hcoherent⟩ := h.finish (hset.symm ▸ hs) hpending hundecided hitem hactor
    refine ⟨extensionAfter x calls ctxs (won ++ [i]) (ctxs i).txTime, _, ?_, hdecided, hcoherent⟩
    rw [hset] at hdecide hintegral ⊢
    rw [hcall] at hdecide hintegral ⊢
    simp only [Decision.commit, runs_bind, runs_utcNow, runs_orRaise, DeviceLogService.runs_append, runs_pure]
    exact ⟨_, _, ⟨rfl, rfl⟩, _, _, hdecide, _, _, ⟨hitem, rfl⟩, _, _, ⟨hintegral, rfl, rfl⟩, rfl, rfl⟩

/-! ### Calls at the same time -/

theorem runs_stage {d : Decision} {id : UUID} {loaded : Loaded} :
    (d.stage id).Runs ctx s loaded s' ↔ ∃ x, s.extensionRequests.get? id = some x ∧ x.status = .pending ∧
      d.AllowedOn x ∧ ∃ r, s.requests.get? x.originalRequestId = some r ∧ loaded = ⟨x, r⟩ ∧ s' = s := by
  cases d <;> simp [Decision.stage, Decision.AllowedOn, and_assoc]

/-- The decisions on one extension, each in its own session. -/
def deciding (id : UUID) (calls : ι → Decision) (ctxs : ι → Ctx) :
    Interleaving.Calls ι Db Loaded Failure ExtensionRequest where
  read i db := ((calls i).stage id (ctxs i) db).map Prod.fst
  commit i loaded db := (calls i).commit loaded (ctxs i) db

/-- An extension of a request with a device, and the administrators who decide it. -/
structure Deciding (db : Db) (x : ExtensionRequest) (r : Request) (itemId : UUID) (calls : ι → Decision) : Prop where
  coherent : db.Coherent
  extension : db.extensionRequests.get? x.id = some x
  parent : db.requests.get? x.originalRequestId = some r
  item : r.assignedItemId = some itemId
  undecided : x.status = .pending → x.itDecidedBy = none ∧ x.itDecidedAt = none
  actors : ∀ i, db.users.References (some (calls i).actor)

theorem Deciding.start (h : Deciding db x r itemId calls) : Ruled db x r itemId calls ctxs [] db := by
  have hr : db.requests.get? r.id = some r := by
    have hkey : r.id = x.originalRequestId := Table.get?_key h.parent
    rw [hkey]
    exact h.parent
  exact ⟨⟨x.updatedAt, h.extension⟩, ⟨r.updatedAt, hr⟩, (List.append_nil _).symm, fun _ _ => rfl, fun _ _ => rfl,
    rfl, rfl, rfl, rfl, rfl⟩

/-- The extension is a latch, which the first decision closes. -/
def Deciding.latch (h : Deciding db x r itemId calls) (ctxs : ι → Ctx) : Latch (deciding x.id calls ctxs) where
  Can i := x.status = .pending ∧ (calls i).AllowedOn x
  stage _ := ⟨x, r⟩
  After won s := Ruled db x r itemId calls ctxs won s ∧ s.Coherent ∧ (won = [] → s = db)
  read_ok {i s} hafter hcan := by
    obtain rfl : s = db := hafter.2.2 rfl
    exact map_fst_ok.mpr ⟨s, runs_stage.mpr ⟨x, h.extension, hcan.1, hcan.2, r, h.parent, rfl, rfl⟩⟩
  read_error {i won s} hafter hnot := by
    obtain ⟨hdecided, -, hstart⟩ := hafter
    rcases runs_or_fails ((calls i).stage x.id) (ctxs i) s with ⟨loaded, s', hruns⟩ | ⟨e, hfails⟩
    · obtain ⟨x', hx', hpending, hallowed, -⟩ := runs_stage.mp hruns
      rcases eq_or_ne won [] with rfl | hne
      · rw [hstart rfl, h.extension] at hx'
        obtain rfl := Option.some.inj hx'
        exact (hnot.resolve_left (fun hne => hne rfl) ⟨hpending, hallowed⟩).elim
      · obtain ⟨t, hx⟩ := hdecided.extension
        obtain rfl := Option.some.inj (hx.symm.trans hx')
        obtain ⟨before, j, rfl⟩ := List.eq_nil_or_concat won |>.resolve_left hne
        simp [extensionAfter] at hpending
        exact ((calls j).status_ne_pending hpending).elim
    · exact ⟨e, map_fst_error.mpr hfails⟩
  commit_ok {i won s} hafter hcan := by
    obtain ⟨row, s', hruns, hdecided, hcoherent⟩ :=
      hafter.1.commit hafter.2.1 hcan.1 (h.undecided hcan.1) h.item (h.actors i)
    exact ⟨row, s', hruns, hdecided, hcoherent, fun hnil => absurd hnil (by simp)⟩

end ExtensionService

open ExtensionService

variable {ι : Type} [DecidableEq ι] {calls : ι → Decision} {ctxs : ι → Ctx} {x : ExtensionRequest} {r : Request}
  {itemId : UUID}

/-- **Concurrent decisions on one extension**: exactly those succeed that are allowed and have read it before any of
them commits. Each writes its own entry to the log, in the order in which they commit; the last one is the decision of
the extension, and one approval among them is enough to move the end of the booking. -/
theorem extensionsRaced (h : Deciding db x r itemId calls) (schedule : List ι) :
    let st := (deciding x.id calls ctxs).exec (.start db) schedule
    let won := (deciding x.id calls ctxs).commits (.start db) schedule
    (∀ i, 2 ≤ schedule.count i → ((st.phase i).succeeded ↔
      (x.status = .pending ∧ (calls i).AllowedOn x) ∧ ∀ j, (st.phase j).succeeded → ReadsBefore schedule i j)) ∧
    won.Nodup ∧ (∀ i, i ∈ won ↔ (st.phase i).succeeded) ∧
    Ruled db x r itemId calls ctxs won st.store := by
  have hstart : (h.latch ctxs).After [] db := ⟨h.start, h.coherent, fun _ => rfl⟩
  have hholds := (h.latch ctxs).holds_exec hstart schedule
  exact ⟨fun i hcount => (h.latch ctxs).succeeded_iff hstart hcount, hholds.nodup, hholds.won, hholds.after.1⟩

/-- An extension of request 2, from 10 to 20. -/
def Sample.asked : ExtensionRequest where
  id := 1
  originalRequestId := 2
  requesterId := 2
  currentAssignedTo := 10
  extendedTo := 20

def Sample.asking : Db := { Sample.store with extensionRequests := ⟨[Sample.asked], by decide⟩ }

def Sample.decisions : Bool → Decision
  | false => .approve none 9
  | true => .reject (some "Too long.") 9

/-- Both decide: the extension is rejected, and the booking ends later all the same. -/
theorem extensionsRaced_both :
    let st := (deciding 1 Sample.decisions fun _ => Sample.ctx).exec (.start Sample.asking) [false, true, false, true]
    (st.phase false).succeeded ∧ (st.phase true).succeeded ∧
    Ruled Sample.asking Sample.asked (Sample.request 2 2 .assigned (some 2)) 2 Sample.decisions (fun _ => Sample.ctx)
      [false, true] st.store ∧
    (extensionAfter Sample.asked Sample.decisions (fun _ => Sample.ctx) [false, true] 5).status = .rejected ∧
    endAfter Sample.asked (Sample.request 2 2 .assigned (some 2)) Sample.decisions [false, true] = some 20 := by
  have h : Deciding Sample.asking Sample.asked (Sample.request 2 2 .assigned (some 2)) 2 Sample.decisions :=
    { coherent := by decide
      extension := rfl
      parent := rfl
      item := rfl
      undecided := fun _ => ⟨rfl, rfl⟩
      actors := fun i => by cases i <;> decide }
  exact ⟨rfl, rfl, (extensionsRaced h [false, true, false, true]).2.2.2, rfl, rfl⟩

end AssetPilot
