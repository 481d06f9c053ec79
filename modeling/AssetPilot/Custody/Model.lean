import Mathlib.Data.Option.Basic
import Mathlib.Tactic.TypeStar
import AssetPilot.Models.Enums

/-!
# Custody of devices

What the program is for, without its tables: devices with a status and a holder, claims of people on
devices, tickets about devices, and people who are active or not. People, devices, claims and tickets
are of arbitrary types. `Step` says once what can happen to custody; each law of the following modules
is an invariant of `Step` under a condition on the act.
-/

set_option linter.unusedSectionVars false

namespace AssetPilot.Custody

/-- The custody of one device. -/
structure Device (υ : Type) where
  status : DeviceStatus
  holder : Option υ
  deriving DecidableEq

/-- A claim of a person: its status and the device it points at. -/
structure Claim (υ δ : Type) where
  claimant : υ
  status : RequestStatus
  device : Option δ
  deriving DecidableEq

/-- A ticket about a device, tied to a claim. -/
structure Ticket (δ κ : Type) where
  device : δ
  claim : Option κ
  resolved : Bool
  deriving DecidableEq

@[ext]
structure State (υ δ κ τ : Type) where
  device : δ → Option (Device υ)
  claim : κ → Option (Claim υ δ)
  ticket : τ → Option (Ticket δ κ)
  active : υ → Option Bool

/-- The claim has come to its end. -/
def Ended (s : RequestStatus) : Prop := s = .completed ∨ s = .rejected ∨ s = .cancelled

instance (s : RequestStatus) : Decidable (Ended s) := inferInstanceAs (Decidable (_ ∨ _ ∨ _))

variable {υ δ κ τ : Type} [DecidableEq υ] [DecidableEq δ] [DecidableEq κ] [DecidableEq τ]

namespace State

variable (c : State υ δ κ τ)

def setDevice (d : δ) (x : Device υ) : State υ δ κ τ :=
  { c with device := fun e => if e = d then some x else c.device e }

def setClaim (r : κ) (x : Claim υ δ) : State υ δ κ τ :=
  { c with claim := fun q => if q = r then some x else c.claim q }

def setTicket (t : τ) (x : Ticket δ κ) : State υ δ κ τ :=
  { c with ticket := fun u => if u = t then some x else c.ticket u }

def setActive (u : υ) (b : Bool) : State υ δ κ τ :=
  { c with active := fun v => if v = u then some b else c.active v }

/-- Every ticket about `d` is resolved. -/
def closeTickets (d : δ) : State υ δ κ τ :=
  { c with ticket := fun t => (c.ticket t).map fun x => if x.device = d then { x with resolved := true } else x }

@[simp] theorem setDevice_device (d : δ) (x : Device υ) (e : δ) :
    (c.setDevice d x).device e = if e = d then some x else c.device e := rfl
@[simp] theorem setDevice_claim (d : δ) (x : Device υ) : (c.setDevice d x).claim = c.claim := rfl
@[simp] theorem setDevice_ticket (d : δ) (x : Device υ) : (c.setDevice d x).ticket = c.ticket := rfl
@[simp] theorem setDevice_active (d : δ) (x : Device υ) : (c.setDevice d x).active = c.active := rfl

@[simp] theorem setClaim_claim (r : κ) (x : Claim υ δ) (q : κ) :
    (c.setClaim r x).claim q = if q = r then some x else c.claim q := rfl
@[simp] theorem setClaim_device (r : κ) (x : Claim υ δ) : (c.setClaim r x).device = c.device := rfl
@[simp] theorem setClaim_ticket (r : κ) (x : Claim υ δ) : (c.setClaim r x).ticket = c.ticket := rfl
@[simp] theorem setClaim_active (r : κ) (x : Claim υ δ) : (c.setClaim r x).active = c.active := rfl

@[simp] theorem setTicket_ticket (t : τ) (x : Ticket δ κ) (u : τ) :
    (c.setTicket t x).ticket u = if u = t then some x else c.ticket u := rfl
@[simp] theorem setTicket_device (t : τ) (x : Ticket δ κ) : (c.setTicket t x).device = c.device := rfl
@[simp] theorem setTicket_claim (t : τ) (x : Ticket δ κ) : (c.setTicket t x).claim = c.claim := rfl
@[simp] theorem setTicket_active (t : τ) (x : Ticket δ κ) : (c.setTicket t x).active = c.active := rfl

@[simp] theorem setActive_active (u v : υ) (b : Bool) :
    (c.setActive u b).active v = if v = u then some b else c.active v := rfl
@[simp] theorem setActive_device (u : υ) (b : Bool) : (c.setActive u b).device = c.device := rfl
@[simp] theorem setActive_claim (u : υ) (b : Bool) : (c.setActive u b).claim = c.claim := rfl
@[simp] theorem setActive_ticket (u : υ) (b : Bool) : (c.setActive u b).ticket = c.ticket := rfl

@[simp] theorem closeTickets_device (d : δ) : (c.closeTickets d).device = c.device := rfl
@[simp] theorem closeTickets_claim (d : δ) : (c.closeTickets d).claim = c.claim := rfl
@[simp] theorem closeTickets_active (d : δ) : (c.closeTickets d).active = c.active := rfl
@[simp] theorem closeTickets_ticket (d : δ) (t : τ) : (c.closeTickets d).ticket t =
    (c.ticket t).map fun x => if x.device = d then { x with resolved := true } else x := rfl

theorem overwrite_same {α β : Type} [DecidableEq α] {f : α → Option β} {a : α} {b : β}
    (h : f a = some b) : (fun e => if e = a then some b else f e) = f := by
  funext e
  split
  · next he => rw [he, h]
  · rfl

theorem setDevice_eq_self {d : δ} {x : Device υ} (h : c.device d = some x) : c.setDevice d x = c := by
  rw [setDevice, overwrite_same h]

theorem setClaim_eq_self {r : κ} {x : Claim υ δ} (h : c.claim r = some x) : c.setClaim r x = c := by
  rw [setClaim, overwrite_same h]

theorem setTicket_eq_self {t : τ} {x : Ticket δ κ} (h : c.ticket t = some x) : c.setTicket t x = c := by
  rw [setTicket, overwrite_same h]

theorem setActive_eq_self {u : υ} {b : Bool} (h : c.active u = some b) : c.setActive u b = c := by
  rw [setActive, overwrite_same h]

theorem setClaim_setDevice_setClaim (r : κ) (x x' : Claim υ δ) (d : δ) (y : Device υ) :
    ((c.setClaim r x).setDevice d y).setClaim r x' = (c.setClaim r x').setDevice d y := by
  ext q : 2
  · rfl
  · simp only [setClaim_claim, setDevice_claim]
    split <;> rfl
  · rfl
  · rfl

theorem setDevice_comm {d e : δ} (h : d ≠ e) (y z : Device υ) :
    (c.setDevice d y).setDevice e z = (c.setDevice e z).setDevice d y := by
  ext x : 2
  · simp only [setDevice_device]
    by_cases hd : x = d
    · rw [if_pos hd, if_pos hd, if_neg (hd ▸ h)]
    · rw [if_neg hd, if_neg hd]
  · rfl
  · rfl
  · rfl

/-- Claim `r` in status `s` points at `d` by right: no other claim in that status does. -/
def Exclusive (r : κ) (d : δ) (s : RequestStatus) : Prop :=
  ∀ q x, q ≠ r → c.claim q = some x → x.device = some d → x.status ≠ s

end State

/-! ### What can happen -/

inductive Act (υ δ κ τ : Type)
  /-- Nothing that custody sees. -/
  | idle
  | addDevice (d : δ)
  /-- Device `d` goes from status `s` to `s'`. -/
  | turn (d : δ) (s s' : DeviceStatus)
  | addClaim (r : κ) (u : υ) (s : RequestStatus)
  /-- A decision on claim `r` takes it to status `s`. -/
  | decide (r : κ) (s : RequestStatus)
  /-- Claim `r` receives device `d`. -/
  | hand (r : κ) (d : δ)
  /-- A new claim of `u` receives device `d`. -/
  | handNew (r : κ) (u : υ) (d : δ)
  /-- Claim `r` gives device `d` back. -/
  | complete (r : κ) (d : δ) (s : DeviceStatus)
  | closeTicket (t : τ)
  | repair (t : τ) (d : δ)
  /-- By ticket `t`, claim `r` receives `d'` and `d` goes to status `s`. -/
  | swap (t : τ) (r : κ) (d d' : δ) (s : DeviceStatus)
  /-- By ticket `t`, device `d` is lost and claim `r` ends. -/
  | lose (t : τ) (r : κ) (d : δ)
  | openTicket (t : τ) (d : δ) (r : Option κ)
  | addUser (u : υ)
  | setActive (u : υ) (b : Bool)

/-- A person holds no device and has no open claim. -/
def State.Clear (c : State υ δ κ τ) (u : υ) : Prop :=
  (∀ d x, c.device d = some x → x.holder ≠ some u) ∧
    ∀ r x, c.claim r = some x → x.claimant = u → Ended x.status

open State Act in
/-- **What can happen to custody.** The premises are all that the program checks, so an act that it
does not check happens wherever the act makes sense. -/
inductive Step (c : State υ δ κ τ) : Act υ δ κ τ → State υ δ κ τ → Prop
  | idle : Step c .idle c
  | addDevice {d : δ} (fresh : c.device d = none) :
      Step c (.addDevice d) (c.setDevice d ⟨.available, none⟩)
  | turn {d : δ} {x : Device υ} {s' : DeviceStatus} (hd : c.device d = some x) :
      Step c (.turn d x.status s') (c.setDevice d { x with status := s' })
  | addClaim {r : κ} {u : υ} {s : RequestStatus} (fresh : c.claim r = none)
      (hs : s ≠ .assigned ∧ ¬ Ended s) :
      Step c (.addClaim r u s) (c.setClaim r ⟨u, s, none⟩)
  | decide {r : κ} {x : Claim υ δ} {s : RequestStatus} (hr : c.claim r = some x)
      (hx : ¬ Ended x.status) (hs : s ≠ .assigned) (ha : x.status = .assigned → Ended s)
      (excl : ¬ Ended s → ∀ d, x.device = some d → c.Exclusive r d s) :
      Step c (.decide r s) (c.setClaim r { x with status := s })
  | hand {r : κ} {d : δ} {x : Claim υ δ} {y : Device υ} (hr : c.claim r = some x)
      (hx : x.status = .pendingItApproval) (hd : c.device d = some y) (hy : y.status = .available)
      (excl : c.Exclusive r d .assigned) :
      Step c (.hand r d) ((c.setClaim r ⟨x.claimant, .assigned, some d⟩).setDevice d
        ⟨.assigned, some x.claimant⟩)
  | handNew {r : κ} {u : υ} {d : δ} {y : Device υ} (fresh : c.claim r = none)
      (hu : c.active u = some true) (hd : c.device d = some y) (hy : y.status = .available)
      (excl : c.Exclusive r d .assigned) :
      Step c (.handNew r u d) ((c.setClaim r ⟨u, .assigned, some d⟩).setDevice d ⟨.assigned, some u⟩)
  | complete {r : κ} {d : δ} {s : DeviceStatus} {x : Claim υ δ} {y : Device υ}
      (hr : c.claim r = some x) (hx : x.device = some d) (hd : c.device d = some y)
      (hy : y.status = .assigned ∨ y.status = .returnShippingPending) :
      Step c (.complete r d s) (((c.setClaim r { x with status := .completed }).setDevice d
        ⟨s, none⟩).closeTickets d)
  | closeTicket {t : τ} {z : Ticket δ κ} (ht : c.ticket t = some z) (hz : z.resolved = false) :
      Step c (.closeTicket t) (c.setTicket t { z with resolved := true })
  | repair {t : τ} {z : Ticket δ κ} {y : Device υ} (ht : c.ticket t = some z) (hz : z.resolved = false)
      (hd : c.device z.device = some y) (hy : y.status = .underRepair) :
      Step c (.repair t z.device) ((c.setDevice z.device { y with status := .assigned }).setTicket t
        { z with resolved := true })
  | swap {t : τ} {r : κ} {d d' : δ} {s : DeviceStatus} {x : Claim υ δ} {y y' : Device υ}
      (ht : c.ticket t = some ⟨d, some r, false⟩) (hr : c.claim r = some x)
      (hd : c.device d = some y) (hd' : c.device d' = some y') (hy' : y'.status = .available)
      (hne : d' ≠ d) (excl : ¬ Ended x.status → c.Exclusive r d' x.status) :
      Step c (.swap t r d d' s) ((((c.setClaim r { x with device := some d' }).setDevice d
        ⟨s, none⟩).setDevice d' ⟨.assigned, some x.claimant⟩).setTicket t ⟨d, some r, true⟩)
  | lose {t : τ} {r : κ} {d : δ} {x : Claim υ δ} {y : Device υ}
      (ht : c.ticket t = some ⟨d, some r, false⟩) (hr : c.claim r = some x)
      (hd : c.device d = some y) :
      Step c (.lose t r d) (((c.setDevice d { y with status := .lost }).setClaim r
        { x with status := .completed }).setTicket t ⟨d, some r, true⟩)
  | openTicket {t : τ} {d : δ} {r : Option κ} (fresh : c.ticket t = none) :
      Step c (.openTicket t d r) (c.setTicket t ⟨d, r, false⟩)
  | addUser {u : υ} (fresh : c.active u = none) : Step c (.addUser u) (c.setActive u true)
  | setActive {u : υ} {b b' : Bool} (hu : c.active u = some b)
      (clear : b' = false → c.Clear u) : Step c (.setActive u b') (c.setActive u b')

end AssetPilot.Custody
