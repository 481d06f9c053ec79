import AssetPilot.Custody.Laws

/-!
# Ownership and the pool

Two laws about who has a device. `Agrees`: the holder of a device is the claimant of the assigned claim
on it. `Pool`: an available device has no holder and no assigned claim. Each is kept by the acts that
`Act.KeepsAgreement` and `Act.KeepsPool` allow.
-/

set_option linter.unusedSectionVars false

namespace AssetPilot.Custody

variable {υ δ κ τ : Type} [DecidableEq υ] [DecidableEq δ] [DecidableEq κ] [DecidableEq τ]
  {c c' : State υ δ κ τ} {a : Act υ δ κ τ} {r : κ} {d : δ} {u : υ} {x : Claim υ δ}

/-! ### Claims on a device -/

/-- The claim is assigned, by `u`, to `d`. -/
def Claim.On (x : Claim υ δ) (d : δ) (u : υ) : Prop :=
  x.status = .assigned ∧ x.device = some d ∧ x.claimant = u

namespace State

/-- Some claim assigns `d` to `u`. -/
def Holds (c : State υ δ κ τ) (d : δ) (u : υ) : Prop := ∃ r x, c.claim r = some x ∧ x.On d u

/-- Some claim other than `r` assigns `d` to `u`. -/
def HoldsBeside (c : State υ δ κ τ) (r : κ) (d : δ) (u : υ) : Prop :=
  ∃ q x, q ≠ r ∧ c.claim q = some x ∧ x.On d u

theorem holds_iff_beside (hr : ∀ x, c.claim r = some x → ¬ x.On d u) :
    c.Holds d u ↔ c.HoldsBeside r d u := by
  constructor
  · rintro ⟨q, x, hq, hx⟩
    exact ⟨q, x, fun h => hr x (h ▸ hq) hx, hq, hx⟩
  · rintro ⟨q, x, -, hq, hx⟩
    exact ⟨q, x, hq, hx⟩

theorem holds_iff_of_claim (hr : c.claim r = some x) :
    c.Holds d u ↔ x.On d u ∨ c.HoldsBeside r d u := by
  by_cases hx : x.On d u
  · simp only [hx, true_or, iff_true]
    exact ⟨r, x, hr, hx⟩
  · rw [holds_iff_beside fun y hy => Option.some.inj (hr.symm.trans hy) ▸ hx]
    simp only [hx, false_or]

theorem holds_setClaim : (c.setClaim r x).Holds d u ↔ x.On d u ∨ c.HoldsBeside r d u := by
  have hr : (c.setClaim r x).claim r = some x := if_pos rfl
  have hbeside : (c.setClaim r x).HoldsBeside r d u ↔ c.HoldsBeside r d u := by
    unfold HoldsBeside
    refine exists_congr fun q => exists_congr fun y => and_congr_right fun hq => ?_
    rw [setClaim_claim, if_neg hq]
  rw [holds_iff_of_claim hr, hbeside]

theorem Exclusive.not_holdsBeside (h : c.Exclusive r d .assigned) : ¬ c.HoldsBeside r d u :=
  fun ⟨q, y, hq, hy, hon⟩ => h q y hq hy hon.2.1 hon.1

end State

theorem Sound.exclusive (h : Sound c) (hr : c.claim r = some x) (hx : x.device = some d)
    (ha : x.status = .assigned) : c.Exclusive r d .assigned := by
  intro q y hq hy hyd hya
  exact hq (h.unique hy hr hyd hx (hya.trans ha.symm) (by rw [hya]; decide))

/-! ### Agreement -/

/-- Statuses of a device that somebody has. -/
def Held (s : DeviceStatus) : Prop :=
  s = .assigned ∨ s = .shippingPending ∨ s = .returnShippingPending

instance (s : DeviceStatus) : Decidable (Held s) := inferInstanceAs (Decidable (_ ∨ _ ∨ _))

structure Agrees (c : State υ δ κ τ) : Prop where
  holder : ∀ {d y}, c.device d = some y → ∀ u, y.holder = some u ↔ c.Holds d u
  held : ∀ {d y}, c.device d = some y → Held y.status → y.holder ≠ none

/-- The acts that keep agreement: an assigned claim is not ended behind its device's back, and a device
goes into a held status only with a holder. -/
def Act.KeepsAgreement (c : State υ δ κ τ) : Act υ δ κ τ → Prop
  | .turn _ s s' => Held s' → Held s
  | .decide r _ => ∀ x, c.claim r = some x → x.status = .assigned → x.device = none
  | .complete r _ s => (∀ x, c.claim r = some x → x.status = .assigned) ∧ ¬ Held s
  | .repair _ d => ∀ y, c.device d = some y → y.holder ≠ none
  | .swap _ r d _ s => (∀ x, c.claim r = some x → x.status = .assigned ∧ x.device = some d) ∧ ¬ Held s
  | .lose _ r _ => ∀ x, c.claim r = some x → x.status = .assigned → x.device = none
  | _ => True

open State in
theorem Agrees.write (h : Agrees c) {y : Device υ} (hnew : ∀ u, y.holder = some u ↔ x.On d u)
    (hheld : Held y.status → y.holder ≠ none) (hbeside : ∀ u, ¬ c.HoldsBeside r d u)
    (hother : ∀ e u, e ≠ d → (c.Holds e u ↔ x.On e u ∨ c.HoldsBeside r e u)) :
    Agrees ((c.setClaim r x).setDevice d y) where
  holder {e z} he u := by
    have hholds : ((c.setClaim r x).setDevice d y).Holds e u ↔ x.On e u ∨ c.HoldsBeside r e u :=
      holds_setClaim
    rw [hholds]
    rw [setDevice_device] at he
    split at he
    · next hed =>
      obtain rfl := Option.some.inj he
      subst hed
      rw [hnew u, or_iff_left (hbeside u)]
    · next hed => rw [← hother e u hed, h.holder he u]
  held {e z} he hz := by
    rw [setDevice_device] at he
    split at he
    · obtain rfl := Option.some.inj he
      exact hheld hz
    · exact h.held he hz

open State in
theorem Agrees.setClaim (h : Agrees c)
    (hsame : ∀ e u, c.Holds e u ↔ x.On e u ∨ c.HoldsBeside r e u) : Agrees (c.setClaim r x) where
  holder {e y} he u := by rw [h.holder he u, hsame e u, holds_setClaim]
  held := h.held

theorem Agrees.setStatus (h : Agrees c) {y : Device υ} {s : DeviceStatus} (hd : c.device d = some y)
    (hheld : Held s → y.holder ≠ none) : Agrees (c.setDevice d { y with status := s }) where
  holder {e z} he u := by
    rw [State.setDevice_device] at he
    split at he
    · next hed =>
      have hholder := h.holder hd u
      obtain rfl := Option.some.inj he
      exact hed ▸ hholder
    · exact h.holder he u
  held {e z} he hz := by
    rw [State.setDevice_device] at he
    split at he
    · obtain rfl := Option.some.inj he
      exact hheld hz
    · exact h.held he hz

theorem Agrees.setTicket (h : Agrees c) (t : τ) (z : Ticket δ κ) : Agrees (c.setTicket t z) :=
  ⟨h.holder, h.held⟩

theorem Agrees.setActive (h : Agrees c) (u : υ) (b : Bool) : Agrees (c.setActive u b) :=
  ⟨h.holder, h.held⟩

theorem Agrees.closeTickets (h : Agrees c) (d : δ) : Agrees (c.closeTickets d) :=
  ⟨h.holder, h.held⟩

theorem Agrees.addDevice (h : Agrees c) (hsound : Sound c) (fresh : c.device d = none) :
    Agrees (c.setDevice d ⟨.available, none⟩) where
  holder {e z} he u := by
    rw [State.setDevice_device] at he
    split at he
    · next hed =>
      obtain rfl := Option.some.inj he
      refine iff_of_false nofun ?_
      rintro ⟨r, x, hr, -, hx, -⟩
      exact hsound.known hr hx (hed ▸ fresh)
    · exact h.holder he u
  held {e z} he hz := by
    rw [State.setDevice_device] at he
    split at he
    · obtain rfl := Option.some.inj he
      exact absurd hz (by simp [Held])
    · exact h.held he hz

theorem Agrees.release (h : Agrees c) {x' : Claim υ δ} {s : DeviceStatus} (hr : c.claim r = some x)
    (hx : ∀ e u, x.On e u → e = d) (hx' : ∀ e u, ¬ x'.On e u) (excl : c.Exclusive r d .assigned)
    (hs : ¬ Held s) : Agrees ((c.setClaim r x').setDevice d ⟨s, none⟩) := by
  refine h.write (fun u => ?_) (fun hheld => absurd hheld hs) (fun u => excl.not_holdsBeside) ?_
  · exact iff_of_false nofun (hx' d u)
  · intro e u hed
    rw [State.holds_iff_of_claim hr, or_iff_right fun hon => hed (hx e u hon), or_iff_right (hx' e u)]

theorem Agrees.receive (h : Agrees c) {s : DeviceStatus} (hx : x.status = .assigned)
    (hd : x.device = some d) (hr : ∀ y e u, c.claim r = some y → ¬ y.On e u)
    (excl : c.Exclusive r d .assigned) :
    Agrees ((c.setClaim r x).setDevice d ⟨s, some x.claimant⟩) := by
  refine h.write (fun u => ?_) (fun _ => Option.some_ne_none _) (fun u => excl.not_holdsBeside) ?_
  · simp [Claim.On, hx, hd]
  · intro e u hed
    rw [State.holds_iff_beside fun y hy => hr y e u hy, or_iff_right]
    exact fun hon => hed (Option.some.inj (hon.2.1.symm.trans hd))

/-- **Ownership keeps agreeing with assignment** under the acts that keep agreement. -/
theorem Agrees.step (hs : Step c a c') (hsound : Sound c) (h : Agrees c) (ok : a.KeepsAgreement c) :
    Agrees c' := by
  cases hs with
  | idle => exact h
  | addDevice fresh => exact h.addDevice hsound fresh
  | turn hd => exact h.setStatus hd fun hheld => h.held hd (ok hheld)
  | addClaim fresh hs =>
    refine h.setClaim fun e u => ?_
    rw [State.holds_iff_beside fun y hy => absurd (fresh.symm.trans hy) nofun, or_iff_right]
    exact fun hon => hs.1 hon.1
  | decide hr hx hs =>
    refine h.setClaim fun e u => ?_
    rw [State.holds_iff_beside fun y hy => ?_, or_iff_right fun hon => hs hon.1]
    rintro ⟨ha, hd, -⟩
    exact absurd ((ok y hy ha).symm.trans hd) nofun
  | hand hr hx hd hy excl =>
    refine h.receive rfl rfl (fun z e u hz hon => ?_) excl
    obtain rfl := Option.some.inj (hr.symm.trans hz)
    exact absurd (hx.symm.trans hon.1) (by decide)
  | handNew fresh hu hd hy excl =>
    exact h.receive rfl rfl (fun z e u hz => absurd (fresh.symm.trans hz) nofun) excl
  | complete hr hx hd =>
    have ha := ok.1 _ hr
    refine (h.release hr (fun e u hon => ?_) (fun e u hon => ?_) (hsound.exclusive hr hx ha)
      ok.2).closeTickets _
    · exact Option.some.inj (hon.2.1.symm.trans hx)
    · exact absurd hon.1 nofun
  | closeTicket => exact h.setTicket _ _
  | repair ht hz hd hy => exact (h.setStatus hd fun _ => ok _ hd).setTicket _ _
  | @swap t r d d' s x y y' ht hr hd hd' hy' hne excl =>
    -- `d` is released first, with `r` pointing nowhere in between
    obtain ⟨⟨ha, hx⟩, hs⟩ := And.imp_left (fun f => f x hr) ok
    have hreleased : Agrees ((c.setClaim r { x with device := none }).setDevice d ⟨s, none⟩) :=
      h.release hr (fun e u hon => Option.some.inj (hon.2.1.symm.trans hx)) (fun e u hon => nomatch hon.2.1)
        (hsound.exclusive hr hx ha) hs
    refine Agrees.setTicket ?_ _ _
    rw [← c.setClaim_setDevice_setClaim r { x with device := none }]
    refine hreleased.receive ha rfl (fun z e u hz hon => ?_) ?_
    · obtain rfl := Option.some.inj ((if_pos rfl).symm.trans hz)
      exact nomatch hon.2.1
    · intro q z hq hz
      rw [State.setDevice_claim, State.setClaim_claim, if_neg hq] at hz
      exact ha ▸ excl (by simp [ha, Ended]) q z hq hz
  | @lose t r d x y ht hr hd =>
    have hlost : Agrees (c.setDevice d { y with status := .lost }) := h.setStatus hd (by simp [Held])
    refine (hlost.setClaim fun e u => ?_).setTicket _ _
    rw [State.holds_iff_beside, or_iff_right fun hon => nomatch hon.1]
    rintro z hz ⟨ha, hdev, -⟩
    exact absurd ((ok z hz ha).symm.trans hdev) nofun
  | openTicket => exact h.setTicket _ _
  | addUser => exact h.setActive _ _
  | setActive => exact h.setActive _ _

/-! ### The pool -/

/-- An available device is free. -/
def Pool (c : State υ δ κ τ) : Prop :=
  ∀ d y, c.device d = some y → y.status = .available → y.holder = none ∧ ∀ u, ¬ c.Holds d u

/-- The acts that keep the pool: a device becomes available only when nobody else has it. -/
def Act.KeepsPool (c : State υ δ κ τ) : Act υ δ κ τ → Prop
  | .turn d _ s => s = .available →
    (∀ y, c.device d = some y → y.holder = none) ∧ ∀ u, ¬ c.Holds d u
  | .complete r d s => s = .available → ∀ u, ¬ c.HoldsBeside r d u
  | .swap _ r d _ s => s = .available → ∀ u, ¬ c.HoldsBeside r d u
  | _ => True

namespace Pool

theorem setDevice (h : Pool c) {y : Device υ}
    (hy : y.status = .available → y.holder = none ∧ ∀ u, ¬ c.Holds d u) : Pool (c.setDevice d y) := by
  intro e z he hz
  rw [State.setDevice_device] at he
  split at he
  · next hed =>
    obtain rfl := Option.some.inj he
    exact hed ▸ hy hz
  · exact h e z he hz

theorem setClaim (h : Pool c)
    (hx : ∀ e y, x.status = .assigned → x.device = some e → c.device e = some y → y.status ≠ .available) :
    Pool (c.setClaim r x) := by
  intro e y he hy
  obtain ⟨hfree, hnone⟩ := h e y he hy
  refine ⟨hfree, fun u => ?_⟩
  rw [State.holds_setClaim]
  rintro (hon | ⟨q, z, -, hq, hz⟩)
  · exact hx e y hon.1 hon.2.1 he hy
  · exact hnone u ⟨q, z, hq, hz⟩

theorem setTicket (h : Pool c) (t : τ) (z : Ticket δ κ) : Pool (c.setTicket t z) := h

theorem setActive (h : Pool c) (u : υ) (b : Bool) : Pool (c.setActive u b) := h

theorem closeTickets (h : Pool c) (d : δ) : Pool (c.closeTickets d) := h

theorem receive (h : Pool c) (hd : x.device = some d) :
    Pool ((c.setClaim r x).setDevice d ⟨.assigned, some x.claimant⟩) := by
  -- the two writes commute: the device leaves the pool first
  have hleft : Pool (c.setDevice d ⟨.assigned, some x.claimant⟩) := h.setDevice nofun
  refine hleft.setClaim fun e y _ he hy => ?_
  obtain rfl := Option.some.inj (hd.symm.trans he)
  obtain rfl := Option.some.inj ((if_pos rfl).symm.trans hy)
  exact nofun

/-- **The pool keeps to free devices** under the acts that keep the pool. -/
theorem step (hs : Step c a c') (hsound : Sound c) (h : Pool c) (ok : a.KeepsPool c) : Pool c' := by
  cases hs with
  | idle => exact h
  | addDevice fresh =>
    refine h.setDevice fun _ => ⟨rfl, ?_⟩
    rintro u ⟨r, x, hr, -, hx, -⟩
    exact hsound.known hr hx fresh
  | @turn d x s' hd => exact h.setDevice fun hs => ⟨(ok hs).1 x hd, (ok hs).2⟩
  | addClaim fresh hs => exact h.setClaim fun _ _ ha => absurd ha hs.1
  | decide hr hx hs => exact h.setClaim fun _ _ ha => absurd ha hs
  | hand => exact h.receive rfl
  | handNew => exact h.receive rfl
  | @complete r d s x y hr hx hd hy =>
    have hended : Pool (c.setClaim r { x with status := .completed }) := by
      refine h.setClaim fun e z ha => ?_
      exact nomatch ha
    refine (hended.setDevice fun hs => ⟨rfl, fun u => ?_⟩).closeTickets _
    rw [State.holds_setClaim, or_iff_right fun hon => nomatch hon.1]
    exact ok hs u
  | closeTicket => exact h.setTicket _ _
  | @repair t z y ht hz hd hy =>
    have hback : Pool (c.setDevice z.device { y with status := .assigned }) := h.setDevice nofun
    exact hback.setTicket _ _
  | @swap t r d d' s x y y' ht hr hd hd' hy' hne excl =>
    -- `d'` leaves the pool, the claim moves to it, and `d` may enter the pool
    have hmoved : Pool ((c.setClaim r { x with device := some d' }).setDevice d'
        ⟨.assigned, some x.claimant⟩) := h.receive rfl
    refine Pool.setTicket ?_ _ _
    rw [State.setDevice_comm _ hne.symm]
    refine hmoved.setDevice fun hs => ⟨rfl, fun u => ?_⟩
    show ¬ (c.setClaim r { x with device := some d' }).Holds d u
    rw [State.holds_setClaim, not_or]
    exact ⟨fun hon => hne (Option.some.inj hon.2.1), ok hs u⟩
  | @lose t r d x y ht hr hd =>
    have hlost : Pool (c.setDevice d { y with status := .lost }) := h.setDevice nofun
    refine (hlost.setClaim fun e z ha => ?_).setTicket _ _
    exact nomatch ha
  | openTicket => exact h.setTicket _ _
  | addUser => exact h.setActive _ _
  | setActive => exact h.setActive _ _

end Pool

end AssetPilot.Custody
