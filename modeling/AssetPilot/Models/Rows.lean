import AssetPilot.Models.Enums
import AssetPilot.Lib.Hex
import AssetPilot.Lib.Table

/-!
# Rows and the database

One structure per mapped class of `app/models`, with the columns' defaults, and the database as one
keyed table per class. The audit trail `device_log` is append-only (two Postgres rules turn every
`UPDATE` and `DELETE` on it into a no-op), so it is the list of its rows in the order of insertion; its
surrogate key `id` is never read and is left out.
-/

namespace AssetPilot

open Relational

/-- A 128-bit identifier. -/
abbrev UUID := BitVec 128

/-- `str(uuid)`: the 32 hexadecimal digits in groups of 8, 4, 4, 4 and 12. -/
def UUID.str (u : UUID) : String :=
  let hex := Hex.hexNumeral 32 u.toNat
  let group (i j : Nat) : String := String.ofList ((hex.take j).drop i)
  s!"{group 0 8}-{group 8 12}-{group 12 16}-{group 16 20}-{group 20 32}"

/-- A point in time, in microseconds. -/
abbrev Datetime := Int

/-- The number of days of a month of the Gregorian calendar. -/
def daysInMonth (year month : Nat) : Nat :=
  if month = 2 then
    if year % 4 = 0 ∧ (year % 100 ≠ 0 ∨ year % 400 = 0) then 29 else 28
  else if month ∈ [4, 6, 9, 11] then 30 else 31

/-- A calendar date. -/
structure Date where
  year : Nat
  month : Nat
  day : Nat
  year_range : 1 ≤ year ∧ year ≤ 9999
  month_range : 1 ≤ month ∧ month ≤ 12
  day_range : 1 ≤ day ∧ day ≤ daysInMonth year month
  deriving DecidableEq

/-- `str(date)`: `YYYY-MM-DD`. -/
def Date.str (d : Date) : String :=
  let pad (width n : Nat) : String :=
    String.ofList (List.leftpad width '0' (Nat.toDigits 10 n))
  s!"{pad 4 d.year}-{pad 2 d.month}-{pad 2 d.day}"

structure ItemCategory where
  id : UUID
  name : String
  description : Option String := none
  requiresMgrApproval : Bool := false
  isActive : Bool := true
  createdAt : Datetime := 0
  updatedAt : Datetime := 0
  deriving DecidableEq

structure User where
  id : UUID
  name : String
  email : String
  passwordHash : Option String
  role : UserRole := .employee
  managerId : Option UUID := none
  isActive : Bool := true
  createdAt : Datetime := 0
  updatedAt : Datetime := 0
  deriving DecidableEq

structure Item where
  id : UUID
  name : String
  serialNo : String
  categoryId : UUID
  ownerType : OwnerType := .company
  clientName : Option String := none
  status : DeviceStatus := .available
  currentOwnerId : Option UUID := none
  purchaseDate : Option Date := none
  qrCodeToken : UUID
  createdAt : Datetime := 0
  updatedAt : Datetime := 0
  deriving DecidableEq

structure Request where
  id : UUID
  requesterId : UUID
  categoryId : UUID
  assignedItemId : Option UUID := none
  requestedFrom : Datetime
  requestedTo : Datetime
  assignedFrom : Option Datetime := none
  assignedTo : Option Datetime := none
  status : RequestStatus := .requested
  priority : RequestPriority := .medium
  note : Option String := none
  requiresMgrApproval : Bool := false
  mgrApprovalStatus : MgrApprovalStatus := .notRequired
  managerId : Option UUID := none
  managerDecisionNote : Option String := none
  managerDecidedAt : Option Datetime := none
  itDecidedBy : Option UUID := none
  itDecisionNote : Option String := none
  itDecidedAt : Option Datetime := none
  rejectedBy : Option RejectedByEnum := none
  rejectedReason : Option String := none
  cancelledBy : Option UUID := none
  cancelledAt : Option Datetime := none
  isWfh : Bool := false
  shipTrackingUrl : Option String := none
  shipInitiatedAt : Option Datetime := none
  shipCompletedAt : Option Datetime := none
  returnTrackingUrl : Option String := none
  returnInitiatedAt : Option Datetime := none
  completedAt : Option Datetime := none
  completedBy : Option UUID := none
  completedNextStatus : Option DeviceStatus := none
  isClientDirect : Bool := false
  createdAt : Datetime := 0
  updatedAt : Datetime := 0
  deriving DecidableEq

structure SupportRequest where
  id : UUID
  itemId : UUID
  requesterId : UUID
  requestId : Option UUID := none
  type : SupportType
  description : String
  status : SupportStatus := .opened
  resolution : Option SupportResolution := none
  itNote : Option String := none
  swappedToItemId : Option UUID := none
  filedAt : Datetime := 0
  resolvedBy : Option UUID := none
  resolvedAt : Option Datetime := none
  autoClosed : Bool := false
  createdAt : Datetime := 0
  updatedAt : Datetime := 0
  deriving DecidableEq

structure ExtensionRequest where
  id : UUID
  originalRequestId : UUID
  requesterId : UUID
  currentAssignedTo : Datetime
  extendedTo : Datetime
  status : ExtensionStatus := .pending
  requiresMgrApproval : Bool := false
  managerId : Option UUID := none
  mgrApprovalStatus : MgrApprovalStatus := .notRequired
  managerNote : Option String := none
  managerDecidedAt : Option Datetime := none
  itDecidedBy : Option UUID := none
  itNote : Option String := none
  itDecidedAt : Option Datetime := none
  createdAt : Datetime := 0
  updatedAt : Datetime := 0
  deriving DecidableEq

structure HandoverRequest where
  id : UUID
  itemId : UUID
  ownerId : UUID
  borrowerId : UUID
  requestedDurationHours : Option Int := none
  status : HandoverStatus := .requested
  requestedAt : Datetime := 0
  decidedAt : Option Datetime := none
  completedAt : Option Datetime := none
  note : Option String := none
  createdAt : Datetime := 0
  updatedAt : Datetime := 0
  deriving DecidableEq

/-- The old and the new text of an edited field. -/
structure FieldChange where
  old : Option String
  new : Option String
  deriving DecidableEq

/-- The JSON values that the services write into `metadata`. -/
inductive MetadataValue
  | text (s : String)
  | changes (fields : List (String × FieldChange))
  deriving DecidableEq

abbrev Metadata := List (String × MetadataValue)

structure DeviceLog where
  itemId : UUID
  eventType : DeviceLogEvent
  actorId : Option UUID
  actorRole : ActorRole
  requestId : Option UUID := none
  supportRequestId : Option UUID := none
  extensionRequestId : Option UUID := none
  handoverRequestId : Option UUID := none
  fromValue : Option String := none
  toValue : Option String := none
  note : Option String := none
  logMetadata : Metadata := []
  isMilestone : Bool := false
  occurredAt : Datetime := 0
  deriving DecidableEq

/-- `item.status = status`. -/
def Item.setStatus (i : Item) (status : DeviceStatus) : Item := { i with status := status }

/-- `item.status = status; item.current_owner_id = None`. -/
def Item.release (i : Item) (status : DeviceStatus) : Item :=
  { i with status := status, currentOwnerId := none }

@[simp] theorem Item.setStatus_id (i : Item) (s : DeviceStatus) : (i.setStatus s).id = i.id := rfl

@[simp] theorem Item.release_id (i : Item) (s : DeviceStatus) : (i.release s).id = i.id := rfl

instance : Keyed ItemCategory UUID := ⟨ItemCategory.id⟩
instance : Keyed User UUID := ⟨User.id⟩
instance : Keyed Item UUID := ⟨Item.id⟩
instance : Keyed Request UUID := ⟨Request.id⟩
instance : Keyed SupportRequest UUID := ⟨SupportRequest.id⟩
instance : Keyed ExtensionRequest UUID := ⟨ExtensionRequest.id⟩
instance : Keyed HandoverRequest UUID := ⟨HandoverRequest.id⟩

/-- The database. -/
structure Db where
  categories : Table ItemCategory := .empty
  users : Table User := .empty
  items : Table Item := .empty
  requests : Table Request := .empty
  supportRequests : Table SupportRequest := .empty
  extensionRequests : Table ExtensionRequest := .empty
  handoverRequests : Table HandoverRequest := .empty
  deviceLog : List DeviceLog := []

end AssetPilot
