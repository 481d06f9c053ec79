import AssetPilot.Custody.Refinement

/-!
# What can happen to an extension

`approve` and `reject` decide a pending extension and log the decision; the manager decides beside them,
looks only at his own status, and logs nothing.
-/

namespace AssetPilot

open Relational
open SQLAlchemyRepository (flushed)

variable {ctx : Ctx} {db db' : Db} {e : Event} {extensionId : UUID}

/-- The extension whose decision the row logs. -/
def DeviceLog.decidedExtension (l : DeviceLog) : Option UUID :=
  if l.eventType = .extensionApproved ∨ l.eventType = .extensionRejected then l.extensionRequestId else none

/-- The logged decisions, in order. -/
def decidedExtensions (rows : List DeviceLog) : List UUID := rows.filterMap DeviceLog.decidedExtension

/-- The call decides the extension `x` as `x'`, apart from `updated_at`. -/
inductive Op.Reviews (ctx : Ctx) : Op → ExtensionRequest → ExtensionRequest → Prop
  | approve {x note actorId} (hpending : x.status = .pending)
      (hmgr : x.mgrApprovalStatus ∈ ExtensionService._MGR_APPROVAL_STATUSES_ALLOWING_IT_APPROVAL) :
    Reviews ctx (.approveExtension x.id note actorId) x
      (ExtensionService.decidedExtension x .approved note actorId (ctx.clock 0))
  | reject {x note actorId} (hpending : x.status = .pending) :
    Reviews ctx (.rejectExtension x.id note actorId) x
      (ExtensionService.decidedExtension x .rejected note actorId (ctx.clock 0))

theorem Op.Reviews.pending {op : Op} {x x' : ExtensionRequest} (h : op.Reviews ctx x x') :
    x.status = .pending := by
  cases h <;> assumption

/-- What the manager's decision sets on the extension. -/
def ExtensionRequest.managed (x : ExtensionRequest) (approved : Bool) (note : Option String)
    (now : Datetime) : ExtensionRequest :=
  { x with
    status := if approved then x.status else .rejected
    mgrApprovalStatus := if approved then .approved else .rejected
    managerNote := note
    managerDecidedAt := some now }

/-- What an event does to the extensions, and which decisions it logs. -/
inductive Event.ExtensionsStep (db : Db) (e : Event) (db' : Db) : Prop
  | same (h : db'.extensionRequests = db.extensionRequests)
      (hlog : decidedExtensions db'.deviceLog = decidedExtensions db.deviceLog)
  | review {ctx : Ctx} {op : Op} {x x' : ExtensionRequest} {u : Datetime} (he : e = .service ctx op)
      (hx : db.extensionRequests.get? x.id = some x) (h : op.Reviews ctx x x')
      (hset : db'.extensionRequests = db.extensionRequests.set { x' with updatedAt := u })
      (hlog : decidedExtensions db'.deviceLog = decidedExtensions db.deviceLog ++ [x.id])
  | manage {ctx : Ctx} {x : ExtensionRequest} {approved : Bool} {note : Option String} {now u : Datetime}
      (he : e = .portal ctx (.decideExtension x.id approved note now))
      (hx : db.extensionRequests.get? x.id = some x) (hmgr : x.mgrApprovalStatus = .pending)
      (hset : db'.extensionRequests =
        db.extensionRequests.set { x.managed approved note now with updatedAt := u })
      (hlog : decidedExtensions db'.deviceLog = decidedExtensions db.deviceLog)
  | file {ctx : Ctx} {x : ExtensionRequest} {u : Datetime} (he : e = .portal ctx (.fileExtension x))
      (hfresh : db.extensionRequests.get? x.id = none) (hpending : x.status = .pending)
      (hinsert : db'.extensionRequests =
        db.extensionRequests.insert { x with createdAt := u, updatedAt := u })
      (hlog : decidedExtensions db'.deviceLog = decidedExtensions db.deviceLog)

theorem ExtensionRequest.flushed_eq (ctx : Ctx) (db : Db) (x : ExtensionRequest) : flushed ctx db x = { x with
    updatedAt := if db.extensionRequests.get? x.id = some x then x.updatedAt else ctx.txTime } := rfl

theorem Event.ExtensionsStep.of_review {db₀ : Db} {op : Op} {x x' y : ExtensionRequest}
    (hx : db.extensionRequests.get? extensionId = some x) (hx' : x' = flushed ctx db₀ y)
    (h : x.id = extensionId → op.Reviews ctx x y)
    (hset : db'.extensionRequests = db.extensionRequests.set x')
    (hlog : decidedExtensions db'.deviceLog = decidedExtensions db.deviceLog ++ [extensionId]) :
    (Event.service ctx op).ExtensionsStep db db' := by
  obtain rfl : x.id = extensionId := Table.get?_key hx
  exact .review rfl hx (h rfl) (hset.trans (congrArg _ (hx'.trans (ExtensionRequest.flushed_eq ..)))) hlog

/-- The rule for laws of every extension. -/
theorem Event.ExtensionsStep.forall_mem {P : ExtensionRequest → Prop} (h : e.ExtensionsStep db db')
    (hreview : ∀ ctx (op : Op) x x' u, op.Reviews ctx x x' → P x → P { x' with updatedAt := u })
    (hmanage : ∀ (x : ExtensionRequest) approved note now u, x.mgrApprovalStatus = .pending → P x →
      P { x.managed approved note now with updatedAt := u })
    (hfile : ∀ (x : ExtensionRequest) u, x.status = .pending → P { x with createdAt := u, updatedAt := u })
    (hold : ∀ x ∈ db.extensionRequests, P x) : ∀ x ∈ db'.extensionRequests, P x := by
  intro y hy
  cases h with
  | same hsame => exact hold y (hsame ▸ hy)
  | review he hx hw hset =>
    rw [hset] at hy
    rcases Table.mem_set.mp hy with ⟨rfl, -⟩ | ⟨hy, -⟩
    · exact hreview _ _ _ _ _ hw (hold _ (Table.get?_mem hx))
    · exact hold y hy
  | manage he hx hmgr hset =>
    rw [hset] at hy
    rcases Table.mem_set.mp hy with ⟨rfl, -⟩ | ⟨hy, -⟩
    · exact hmanage _ _ _ _ _ hmgr (hold _ (Table.get?_mem hx))
    · exact hold y hy
  | @file ctx x u he hfresh hpending hinsert =>
    have hfresh' : db.extensionRequests.get? { x with createdAt := u, updatedAt := u }.id = none := hfresh
    rw [hinsert] at hy
    rcases (Table.mem_insert hfresh').mp hy with hy | rfl
    · exact hold y hy
    · exact hfile x u hpending

end AssetPilot
