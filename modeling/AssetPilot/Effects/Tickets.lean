import AssetPilot.Custody.Refinement

/-!
# What can happen to a ticket

A ticket is started, and closed once: by `resolve`, or by the cascade of `complete_return` over the open
tickets of the returned device. Each closing is logged.
-/

namespace AssetPilot

open Relational
open SQLAlchemyRepository (flushed)

variable {ctx : Ctx} {db db' : Db} {e : Event} {ticketId itemId : UUID}

/-- The ticket whose closing the row logs. -/
def DeviceLog.closedTicket (l : DeviceLog) : Option UUID :=
  if l.eventType = .supportResolved ∨ l.eventType = .supportAutoClosed then l.supportRequestId else none

/-- The logged closings, in order. -/
def closedTickets (rows : List DeviceLog) : List UUID := rows.filterMap DeviceLog.closedTicket

/-- What an event does to the tickets, and which closings it logs. -/
inductive Event.TicketsStep (db : Db) (e : Event) (db' : Db) : Prop
  | same (h : db'.supportRequests = db.supportRequests)
      (hlog : closedTickets db'.deviceLog = closedTickets db.deviceLog)
  | start {ctx : Ctx} {t : SupportRequest} {actorId : UUID} {u : Datetime}
      (he : e = .service ctx (.start t.id actorId)) (ht : db.supportRequests.get? t.id = some t)
      (hopen : t.status = .opened)
      (hset : db'.supportRequests =
        db.supportRequests.set { t with status := .inProgress, updatedAt := u })
      (hlog : closedTickets db'.deviceLog = closedTickets db.deviceLog)
  | resolve {ctx : Ctx} {t : SupportRequest} {resolution : SupportResolution} {note : Option String}
      {newId : Option UUID} {next : Option DeviceStatus} {actorId : UUID} {now u : Datetime}
      (he : e = .service ctx (.resolve t.id resolution note newId next actorId))
      (ht : db.supportRequests.get? t.id = some t) (hopen : t.status ≠ .resolved)
      (hset : db'.supportRequests = db.supportRequests.set
        { SupportService.resolvedTicket t resolution note newId actorId now with updatedAt := u })
      (hlog : closedTickets db'.deviceLog = closedTickets db.deviceLog ++ [t.id])
  | autoClose {ctx : Ctx} {requestId actorId itemId : UUID} {next : DeviceStatus} {ts : List SupportRequest}
      (he : e = .service ctx (.completeReturn requestId next actorId))
      (hts : ∀ t, t ∈ ts ↔ t ∈ db.supportRequests ∧ t.itemId = itemId ∧ t.status ≠ .resolved)
      (hnodup : (ts.map SupportRequest.id).Nodup)
      (hothers : ∀ k, (∀ t ∈ ts, t.id ≠ k) → db'.supportRequests.get? k = db.supportRequests.get? k)
      (hclosed : ∀ t ∈ ts, ShippingService.IsClosed db' t)
      (hlog : closedTickets db'.deviceLog = closedTickets db.deviceLog ++ ts.map SupportRequest.id)
  | file {ctx : Ctx} {t : SupportRequest} {u : Datetime} (he : e = .portal ctx (.fileTicket t))
      (hfresh : db.supportRequests.get? t.id = none) (hopen : t.status = .opened)
      (hinsert : db'.supportRequests =
        db.supportRequests.insert { t with createdAt := u, updatedAt := u, filedAt := u })
      (hlog : closedTickets db'.deviceLog = closedTickets db.deviceLog)

theorem closedTickets_cascade (ts : List SupportRequest) :
    closedTickets (ts.map fun t => (ShippingService.closedLog itemId t.id).written ctx) =
      ts.map SupportRequest.id := by
  induction ts with
  | nil => rfl
  | cons t ts ih =>
    have hrow : ((ShippingService.closedLog itemId t.id).written ctx).closedTicket = some t.id := rfl
    rw [List.map_cons, List.map_cons, closedTickets, List.filterMap_cons_some hrow]
    exact congrArg _ ih

end AssetPilot
