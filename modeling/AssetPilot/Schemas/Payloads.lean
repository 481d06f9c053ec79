import AssetPilot.Models.Rows

/-!
# Request payloads

The validators of the pydantic schemas (`app/schemas`), as predicates on the fields of a payload. The
shape of the payload is in the types; `UpdateItemRequest`, which forbids an explicit null for `name` and
`category_id`, is the type `InventoryService.ItemUpdates`.
-/

namespace AssetPilot

/-- `CreateItemRequest`: a client-owned device names its client. -/
def CreateItemRequest (ownerType : OwnerType) (clientName : Option String) : Prop :=
  ¬ (ownerType = .client ∧ (clientName = none ∨ clientName = some ""))

def _CHANGEABLE_STATUSES : List DeviceStatus :=
  [.available, .underRepair, .maintenance, .lost, .retired, .returnedToClient]

def ChangeItemStatusRequest (status : DeviceStatus) : Prop := status ∈ _CHANGEABLE_STATUSES

/-- The range check of three payloads: `assigned_from` must be before `assigned_to`. -/
def RangeRequest (assignedFrom assignedTo : Datetime) : Prop := ¬ assignedFrom ≥ assignedTo

abbrev BookingRangeRequest : Datetime → Datetime → Prop := RangeRequest
abbrev AssignRequestRequest : Datetime → Datetime → Prop := RangeRequest
abbrev DirectAssignRequest : Datetime → Datetime → Prop := RangeRequest

def _ALLOWED_NEXT_STATUSES : List DeviceStatus := [.available, .underRepair, .retired]

def CompleteReturnRequest (nextStatus : DeviceStatus) : Prop := nextStatus ∈ _ALLOWED_NEXT_STATUSES

/-- `ResolveSupportRequestRequest`: a swap names its target and the old device's next status, which may
be any device status. -/
def ResolveSupportRequestRequest (resolution : SupportResolution) (swappedToItemId : Option UUID)
    (oldItemNextStatus : Option DeviceStatus) : Prop :=
  ¬ (resolution = .swapped ∧ (swappedToItemId = none ∨ oldItemNextStatus = none))

/-- `RegisterRequest`: `password: str = Field(min_length=8)`. -/
def RegisterRequest (password : String) : Prop := 8 ≤ password.length

instance (o : OwnerType) (c : Option String) : Decidable (CreateItemRequest o c) :=
  inferInstanceAs (Decidable (¬ _))
instance (s : DeviceStatus) : Decidable (ChangeItemStatusRequest s) :=
  inferInstanceAs (Decidable (_ ∈ _))
instance (f t : Datetime) : Decidable (RangeRequest f t) := inferInstanceAs (Decidable (¬ _))
instance (s : DeviceStatus) : Decidable (CompleteReturnRequest s) :=
  inferInstanceAs (Decidable (_ ∈ _))
instance (r : SupportResolution) (i : Option UUID) (s : Option DeviceStatus) :
    Decidable (ResolveSupportRequestRequest r i s) := inferInstanceAs (Decidable (¬ _))
instance (p : String) : Decidable (RegisterRequest p) := inferInstanceAs (Decidable (_ ≤ _))

end AssetPilot
