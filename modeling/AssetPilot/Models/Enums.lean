/-!
# Enumerations

The Python enums behind the Postgres enum types (`app/models/enums.py`). `value` is the text stored in
the database, where the services use it.
-/

namespace AssetPilot

inductive UserRole
  | employee
  | manager
  | itAdmin
  deriving DecidableEq, Repr

inductive DeviceStatus
  | available
  | assigned
  | shippingPending
  | returnShippingPending
  | underRepair
  | maintenance
  | lost
  | retired
  | returnedToClient
  deriving DecidableEq, Repr

inductive RequestStatus
  | requested
  | pendingMgrApproval
  | pendingItApproval
  | assigned
  | completed
  | rejected
  | cancelled
  deriving DecidableEq, Repr

inductive MgrApprovalStatus
  | notRequired
  | pending
  | approved
  | rejected
  deriving DecidableEq, Repr

inductive RejectedByEnum
  | manager
  | itAdmin
  | itAdminCancel
  deriving DecidableEq, Repr

inductive RequestPriority
  | low
  | medium
  | high
  deriving DecidableEq, Repr

inductive OwnerType
  | company
  | client
  deriving DecidableEq, Repr

inductive SupportType
  | update
  | damage
  | lost
  deriving DecidableEq, Repr

/-- `open` is a keyword of Lean, hence `opened`. -/
inductive SupportStatus
  | opened
  | inProgress
  | resolved
  deriving DecidableEq, Repr

inductive SupportResolution
  | remoteResolved
  | repairedInPlace
  | swapped
  | markedLost
  deriving DecidableEq, Repr

inductive ExtensionStatus
  | pending
  | approved
  | rejected
  deriving DecidableEq, Repr

inductive HandoverStatus
  | requested
  | accepted
  | rejected
  | cancelled
  | completed
  deriving DecidableEq, Repr

inductive DeviceLogEvent
  | deviceCreated
  | deviceEdited
  | assigned
  | clientAssigned
  | shipOutboundInitiated
  | shipOutboundCompleted
  | returnShipInitiated
  | returnReceived
  | assignmentCompleted
  | statusChanged
  | supportOpened
  | supportResolved
  | supportAutoClosed
  | extensionRequested
  | extensionApproved
  | extensionRejected
  | handoverRequested
  | handoverAccepted
  | handoverRejected
  | handoverCancelled
  | handoverCompleted
  | markedLost
  | retired
  | returnedToClient
  | swappedOut
  | swappedIn
  deriving DecidableEq, Repr

inductive ActorRole
  | employee
  | manager
  | itAdmin
  | system
  deriving DecidableEq, Repr

def UserRole.value : UserRole → String
  | employee => "employee"
  | manager => "manager"
  | itAdmin => "it_admin"

theorem UserRole.value_injective : Function.Injective UserRole.value := by
  intro r r' h
  cases r <;> cases r' <;> first | rfl | exact absurd h (by decide)

def DeviceStatus.value : DeviceStatus → String
  | available => "available"
  | assigned => "assigned"
  | shippingPending => "shipping_pending"
  | returnShippingPending => "return_shipping_pending"
  | underRepair => "under_repair"
  | maintenance => "maintenance"
  | lost => "lost"
  | retired => "retired"
  | returnedToClient => "returned_to_client"

theorem DeviceStatus.value_injective : Function.Injective DeviceStatus.value := by
  intro s t h
  cases s <;> cases t <;> first | rfl | exact absurd h (by decide)

end AssetPilot
