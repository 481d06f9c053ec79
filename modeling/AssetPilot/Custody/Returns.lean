import AssetPilot.Custody.Model

/-!
# Devices on their way back

A claim that has ended points at its device still. `ReturnsOpen`: of the claims that point at a device on its way
back, all are assigned. `Step.returnsOpen_iff` reads off the act and the state before it whether it stays so.
-/

set_option linter.unusedSectionVars false

namespace AssetPilot.Custody

variable {υ δ κ τ : Type} [DecidableEq υ] [DecidableEq δ] [DecidableEq κ] [DecidableEq τ]
  {c c' : State υ δ κ τ} {a : Act υ δ κ τ} {d e : δ} {r : κ}

/-- The device is on its way back. -/
def State.Returning (c : State υ δ κ τ) (d : δ) : Prop :=
  ∃ y, c.device d = some y ∧ y.status = .returnShippingPending

/-- The claims beside `r` that point at the device are assigned. -/
def State.BookedBeside (c : State υ δ κ τ) (r : κ) (d : δ) : Prop :=
  ∀ q x, q ≠ r → c.claim q = some x → x.device = some d → x.status = .assigned

/-- The claims that point at the device are assigned. -/
def State.Booked (c : State υ δ κ τ) (d : δ) : Prop :=
  ∀ q x, c.claim q = some x → x.device = some d → x.status = .assigned

/-- Only assigned claims point at a device on its way back. -/
def ReturnsOpen (c : State υ δ κ τ) : Prop := ∀ d, c.Returning d → c.Booked d

/-- The act sends back no device that a claim points at which is not assigned, and ends no claim on a device on
its way back. -/
def Act.KeepsReturns (c : State υ δ κ τ) : Act υ δ κ τ → Prop
  | .turn d _ s => s = .returnShippingPending → c.Booked d
  | .decide r _ => ∀ x, c.claim r = some x → ∀ d, x.device = some d → ¬ c.Returning d
  | .complete _ _ s => s ≠ .returnShippingPending
  | .swap _ r d _ s => s = .returnShippingPending → c.BookedBeside r d
  | .lose _ r d => ∀ x, c.claim r = some x → ∀ e, x.device = some e → e ≠ d → ¬ c.Returning e
  | _ => True

/-! ### Writes -/

theorem State.Booked.beside (h : c.Booked d) : c.BookedBeside r d := fun q x _ => h q x

theorem State.returning_setDevice {y : Device υ} : (c.setDevice d y).Returning e ↔
    if e = d then y.status = .returnShippingPending else c.Returning e := by
  unfold State.Returning
  by_cases he : e = d <;> simp [he]

theorem State.booked_setClaim {x : Claim υ δ} : (c.setClaim r x).Booked d ↔
    (x.device = some d → x.status = .assigned) ∧ c.BookedBeside r d := by
  constructor
  · intro h
    refine ⟨h r x (if_pos rfl), fun q y hq hy => h q y ?_⟩
    rw [setClaim_claim, if_neg hq, hy]
  · rintro ⟨hclaim, hbeside⟩ q y hy hd
    rw [setClaim_claim] at hy
    split at hy
    · obtain rfl := Option.some.inj hy
      exact hclaim hd
    · next hq => exact hbeside q y hq hy hd

theorem returnsOpen_of_same (hdevice : c'.device = c.device) (hclaim : c'.claim = c.claim) (h : ReturnsOpen c) :
    ReturnsOpen c' := by
  rintro d ⟨y, hy, hstatus⟩ q x hx hd
  rw [hdevice] at hy
  rw [hclaim] at hx
  exact h d ⟨y, hy, hstatus⟩ q x hx hd

theorem ReturnsOpen.setDevice_iff (h : ReturnsOpen c) {y : Device υ} :
    ReturnsOpen (c.setDevice d y) ↔ (y.status = .returnShippingPending → c.Booked d) := by
  constructor
  · intro hset hstatus
    exact hset d (State.returning_setDevice.mpr (by rwa [if_pos rfl]))
  · intro hbooked e he
    rw [State.returning_setDevice] at he
    split at he
    · next hd => exact hd ▸ hbooked he
    · exact h e he

theorem ReturnsOpen.setClaim_iff (h : ReturnsOpen c) {x : Claim υ δ} :
    ReturnsOpen (c.setClaim r x) ↔ ∀ d, x.device = some d → c.Returning d → x.status = .assigned := by
  constructor
  · intro hset d hd hreturning
    exact (State.booked_setClaim.mp (hset d hreturning)).1 hd
  · intro hclaim d hreturning
    exact State.booked_setClaim.mpr ⟨fun hd => hclaim d hd hreturning, (h d hreturning).beside⟩

theorem ReturnsOpen.complete_iff (h : ReturnsOpen c) {x : Claim υ δ} {s : DeviceStatus} (hx : x.device = some d) :
    ReturnsOpen (((c.setClaim r { x with status := .completed }).setDevice d ⟨s, none⟩).closeTickets d) ↔
      s ≠ .returnShippingPending := by
  constructor
  · rintro hset rfl
    have hreturning : (c.setDevice d ⟨.returnShippingPending, none⟩).Returning d := ⟨_, if_pos rfl, rfl⟩
    exact absurd (hset d hreturning r _ (if_pos rfl) hx) (of_decide_eq_false rfl)
  · intro hs
    have hturned : ReturnsOpen (c.setDevice d ⟨s, none⟩) := h.setDevice_iff.mpr fun hstatus => absurd hstatus hs
    refine returnsOpen_of_same rfl rfl (hturned.setClaim_iff.mpr fun e he hreturning => ?_)
    obtain rfl : d = e := Option.some.inj (hx.symm.trans he)
    rw [State.returning_setDevice, if_pos rfl] at hreturning
    exact absurd hreturning hs

theorem ReturnsOpen.swap_iff (h : ReturnsOpen c) {d' : δ} {x : Claim υ δ} {s : DeviceStatus} {u : Option υ}
    (hne : d' ≠ d) :
    ReturnsOpen (((c.setClaim r { x with device := some d' }).setDevice d ⟨s, none⟩).setDevice d'
      ⟨.assigned, u⟩) ↔ (s = .returnShippingPending → c.BookedBeside r d) := by
  constructor
  · rintro hset rfl
    have hreturning : ((c.setDevice d ⟨.returnShippingPending, none⟩).setDevice d' ⟨.assigned, u⟩).Returning d := by
      rw [State.returning_setDevice, if_neg hne.symm, State.returning_setDevice, if_pos rfl]
    exact (State.booked_setClaim.mp (hset d hreturning)).2
  · intro hbeside e he
    have hreturning : ((c.setDevice d ⟨s, none⟩).setDevice d' ⟨.assigned, u⟩).Returning e := he
    rw [State.returning_setDevice] at hreturning
    split at hreturning
    · exact nomatch hreturning
    · next hd' =>
      refine State.booked_setClaim.mpr ⟨fun hd => absurd (Option.some.inj hd).symm hd', ?_⟩
      rw [State.returning_setDevice] at hreturning
      split at hreturning
      · next hd => exact hd ▸ hbeside hreturning
      · exact (h e hreturning).beside

theorem ReturnsOpen.lose_iff (h : ReturnsOpen c) {x : Claim υ δ} {u : Option υ} :
    ReturnsOpen ((c.setDevice d ⟨.lost, u⟩).setClaim r { x with status := .completed }) ↔
      ∀ e, x.device = some e → e ≠ d → ¬ c.Returning e := by
  have hturned : ReturnsOpen (c.setDevice d ⟨.lost, u⟩) := h.setDevice_iff.mpr nofun
  rw [hturned.setClaim_iff]
  simp only [State.returning_setDevice]
  constructor
  · intro hset e he hne hreturning
    exact absurd (hset e he (by rwa [if_neg hne])) (of_decide_eq_false rfl)
  · intro hlost e he hreturning
    split at hreturning
    · exact nomatch hreturning
    · next hne => exact absurd hreturning (hlost e he hne)

/-! ### Steps -/

/-- **What an act needs** for the devices on their way back. -/
theorem Step.returnsOpen_iff (hstep : Step c a c') (h : ReturnsOpen c) :
    ReturnsOpen c' ↔ a.KeepsReturns c := by
  cases hstep with
  | idle | closeTicket | openTicket | addUser | setActive =>
    exact iff_of_true (returnsOpen_of_same rfl rfl h) trivial
  | addDevice => exact iff_of_true (h.setDevice_iff.mpr nofun) trivial
  | turn => exact h.setDevice_iff
  | addClaim => exact iff_of_true (h.setClaim_iff.mpr nofun) trivial
  | @decide r x s hr _ hs =>
    rw [h.setClaim_iff]
    constructor
    · intro hset x' hx' d hd hreturning
      obtain rfl := Option.some.inj (hr.symm.trans hx')
      exact hs (hset d hd hreturning)
    · intro hkeeps d hd hreturning
      exact absurd hreturning (hkeeps x hr d hd)
  | @hand r d x =>
    have hclaimed : ReturnsOpen (c.setClaim r ⟨x.claimant, .assigned, some d⟩) :=
      h.setClaim_iff.mpr fun _ _ _ => rfl
    exact iff_of_true (hclaimed.setDevice_iff.mpr nofun) trivial
  | @handNew r u d =>
    have hclaimed : ReturnsOpen (c.setClaim r ⟨u, .assigned, some d⟩) := h.setClaim_iff.mpr fun _ _ _ => rfl
    exact iff_of_true (hclaimed.setDevice_iff.mpr nofun) trivial
  | complete _ hx => exact h.complete_iff hx
  | @repair t z y =>
    have hturned : ReturnsOpen (c.setDevice z.device { y with status := .assigned }) := h.setDevice_iff.mpr nofun
    exact iff_of_true (returnsOpen_of_same rfl rfl hturned) trivial
  | swap _ _ _ _ _ hne => exact h.swap_iff hne
  | @lose t r d x y _ hr =>
    have hlose : ReturnsOpen ((c.setDevice d ⟨.lost, y.holder⟩).setClaim r { x with status := .completed }) ↔
        ∀ x', c.claim r = some x' → ∀ e, x'.device = some e → e ≠ d → ¬ c.Returning e := by
      rw [h.lose_iff, hr]
      simp
    exact hlose

end AssetPilot.Custody
