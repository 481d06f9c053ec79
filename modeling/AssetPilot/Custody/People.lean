import AssetPilot.Custody.Laws

/-!
# Inactive people hold nothing

`ActiveOnly`: a person who is not active holds no device and has no open claim. Deactivation checks it
once; afterwards only what is given to a claimant has to be watched.
-/

set_option linter.unusedSectionVars false

namespace AssetPilot.Custody

variable {υ δ κ τ : Type} [DecidableEq υ] [DecidableEq δ] [DecidableEq κ] [DecidableEq τ]
  {c c' : State υ δ κ τ} {a : Act υ δ κ τ} {r : κ} {d : δ} {u : υ} {x : Claim υ δ} {y : Device υ}

def ActiveOnly (c : State υ δ κ τ) : Prop := ∀ u, c.active u = some false → c.Clear u

/-- The acts that keep the law: inactive people file nothing and receive nothing by a swap. -/
def Act.KeepsActiveOnly (c : State υ δ κ τ) : Act υ δ κ τ → Prop
  | .addClaim _ u _ => c.active u ≠ some false
  | .swap _ r _ _ _ => ∀ x, c.claim r = some x → c.active x.claimant ≠ some false
  | _ => True

namespace ActiveOnly

theorem holder (h : ActiveOnly c) (hd : c.device d = some y) (hu : y.holder = some u) :
    c.active u ≠ some false :=
  fun hi => (h u hi).1 d y hd hu

theorem claimant (h : ActiveOnly c) (hr : c.claim r = some x) (hopen : ¬ Ended x.status) :
    c.active x.claimant ≠ some false :=
  fun hi => hopen ((h _ hi).2 r x hr rfl)

theorem setDevice {s : DeviceStatus} {o : Option υ} (h : ActiveOnly c)
    (ho : ∀ u, o = some u → c.active u ≠ some false) : ActiveOnly (c.setDevice d ⟨s, o⟩) := by
  intro u hu
  refine ⟨fun e z he hz => ?_, (h u hu).2⟩
  rw [State.setDevice_device] at he
  split at he
  · obtain rfl := Option.some.inj he
    exact ho u hz hu
  · exact (h u hu).1 e z he hz

theorem setClaim {v : υ} {s : RequestStatus} {o : Option δ} (h : ActiveOnly c)
    (hv : ¬ Ended s → c.active v ≠ some false) : ActiveOnly (c.setClaim r ⟨v, s, o⟩) := by
  intro u hu
  refine ⟨(h u hu).1, fun q z hq hz => ?_⟩
  rw [State.setClaim_claim] at hq
  split at hq
  · obtain rfl := Option.some.inj hq
    by_contra hopen
    obtain rfl : v = u := hz
    exact hv hopen hu
  · exact (h u hu).2 q z hq hz

theorem setTicket (h : ActiveOnly c) (t : τ) (z : Ticket δ κ) : ActiveOnly (c.setTicket t z) := h

theorem closeTickets (h : ActiveOnly c) (d : δ) : ActiveOnly (c.closeTickets d) := h

theorem setActive (h : ActiveOnly c) {b : Bool} (hb : b = false → c.Clear u) :
    ActiveOnly (c.setActive u b) := by
  intro v hv
  rw [State.setActive_active] at hv
  split at hv
  · next hvu => exact hvu ▸ hb (Option.some.inj hv)
  · exact h v hv

/-- **Inactive people keep holding nothing** under the acts that keep the law. -/
theorem step (hs : Step c a c') (h : ActiveOnly c) (ok : a.KeepsActiveOnly c) : ActiveOnly c' := by
  cases hs with
  | idle => exact h
  | addDevice => exact h.setDevice nofun
  | turn hd => exact h.setDevice fun u hu => h.holder hd hu
  | addClaim => exact h.setClaim fun _ => ok
  | decide hr hx => exact h.setClaim fun _ => h.claimant hr hx
  | hand hr hx =>
    have hactive := h.claimant hr (by rw [hx]; decide)
    refine (h.setClaim fun _ => hactive).setDevice ?_
    rintro _ ⟨⟩
    exact hactive
  | handNew fresh hu =>
    have hactive : c.active _ ≠ some false := fun hi => nomatch hu.symm.trans hi
    refine (h.setClaim fun _ => hactive).setDevice ?_
    rintro _ ⟨⟩
    exact hactive
  | complete hr =>
    refine ((h.setClaim ?_).setDevice ?_).closeTickets _
    · exact fun hopen => absurd (.inl rfl) hopen
    · exact nofun
  | closeTicket => exact h.setTicket _ _
  | repair ht hz hd => exact (h.setDevice fun u hu => h.holder hd hu).setTicket _ _
  | swap ht hr =>
    refine (((h.setClaim fun _ => ok _ hr).setDevice ?_).setDevice ?_).setTicket _ _
    · exact nofun
    · rintro _ ⟨⟩
      exact ok _ hr
  | lose ht hr hd =>
    refine ((h.setDevice fun u hu => h.holder hd hu).setClaim ?_).setTicket _ _
    exact fun hopen => absurd (.inl rfl) hopen
  | openTicket => exact h.setTicket _ _
  | addUser => exact h.setActive nofun
  | setActive hu clear => exact h.setActive clear

end ActiveOnly

end AssetPilot.Custody
