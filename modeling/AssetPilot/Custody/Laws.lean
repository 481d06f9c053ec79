import AssetPilot.Custody.Model

/-!
# The laws of custody
-/

set_option linter.unusedSectionVars false

namespace AssetPilot.Custody

variable {υ δ κ τ : Type} [DecidableEq υ] [DecidableEq δ] [DecidableEq κ] [DecidableEq τ]
  {c c' : State υ δ κ τ} {a : Act υ δ κ τ}

/-! ### What the database itself guarantees -/

structure Sound (c : State υ δ κ τ) : Prop where
  /-- No two claims in the same open status point at one device. -/
  unique : ∀ {r q x y d}, c.claim r = some x → c.claim q = some y → x.device = some d →
    y.device = some d → x.status = y.status → ¬ Ended x.status → r = q
  /-- A claim points at an existing device. -/
  known : ∀ {r x d}, c.claim r = some x → x.device = some d → c.device d ≠ none

namespace Sound

theorem setDevice (h : Sound c) (d : δ) (y : Device υ) : Sound (c.setDevice d y) where
  unique := h.unique
  known hr hx := by
    have := h.known hr hx
    grind [State.setDevice_device]

theorem setTicket (h : Sound c) (t : τ) (z : Ticket δ κ) : Sound (c.setTicket t z) :=
  ⟨h.unique, h.known⟩

theorem setActive (h : Sound c) (u : υ) (b : Bool) : Sound (c.setActive u b) :=
  ⟨h.unique, h.known⟩

theorem closeTickets (h : Sound c) (d : δ) : Sound (c.closeTickets d) :=
  ⟨h.unique, h.known⟩

theorem setClaim (h : Sound c) {r : κ} {x : Claim υ δ} (known : ∀ d, x.device = some d → c.device d ≠ none)
    (excl : ¬ Ended x.status → ∀ d, x.device = some d → c.Exclusive r d x.status) :
    Sound (c.setClaim r x) where
  unique {p q y z d} hp hq hy hz hs hopen := by
    rw [State.setClaim_claim] at hp hq
    by_cases hpr : p = r <;> by_cases hqr : q = r
    · exact hpr.trans hqr.symm
    · rw [if_pos hpr, Option.some.injEq] at hp
      rw [if_neg hqr] at hq
      subst hp
      exact absurd hs.symm (excl hopen d hy q z hqr hq hz)
    · rw [if_neg hpr] at hp
      rw [if_pos hqr, Option.some.injEq] at hq
      subst hq
      exact absurd hs (excl (hs ▸ hopen) d hz p y hpr hp hy)
    · rw [if_neg hpr] at hp
      rw [if_neg hqr] at hq
      exact h.unique hp hq hy hz hs hopen
  known {p y d} hp hy := by
    rw [State.setClaim_claim] at hp
    by_cases hpr : p = r
    · rw [if_pos hpr, Option.some.injEq] at hp
      subst hp
      exact known d hy
    · rw [if_neg hpr] at hp
      exact h.known hp hy

/-- **Every act keeps custody sound.** -/
theorem step (hs : Step c a c') (h : Sound c) : Sound c' := by
  have hsome {d : δ} {y : Device υ} (hd : c.device d = some y) (e : δ) (he : some d = some e) :
      c.device e ≠ none := by
    rw [← Option.some.inj he, hd]
    exact Option.some_ne_none y
  cases hs with
  | idle => exact h
  | addDevice => exact h.setDevice _ _
  | turn => exact h.setDevice _ _
  | addClaim => exact h.setClaim (fun _ he => nomatch he) (fun _ _ he => nomatch he)
  | decide hr _ _ _ excl => exact h.setClaim (fun d hd => h.known hr hd) excl
  | hand _ _ hd _ excl =>
    exact (h.setClaim (hsome hd) fun _ e he => Option.some.inj he ▸ excl).setDevice _ _
  | handNew _ _ hd _ excl =>
    exact (h.setClaim (hsome hd) fun _ e he => Option.some.inj he ▸ excl).setDevice _ _
  | complete hr =>
    refine ((h.setClaim ?_ ?_).setDevice _ _).closeTickets _
    · exact fun d hd => h.known hr hd
    · exact fun hopen => absurd (.inl rfl) hopen
  | closeTicket => exact h.setTicket _ _
  | repair => exact (h.setDevice _ _).setTicket _ _
  | swap _ _ _ hd' _ _ excl =>
    exact (((h.setClaim (hsome hd') fun hopen e he => Option.some.inj he ▸ excl hopen).setDevice
      _ _).setDevice _ _).setTicket _ _
  | lose _ hr =>
    refine ((h.setDevice _ _).setClaim ?_ ?_).setTicket _ _
    · exact fun d hd => (h.setDevice _ _).known hr hd
    · exact fun hopen => absurd (.inl rfl) hopen
  | openTicket => exact h.setTicket _ _
  | addUser => exact h.setActive _ _
  | setActive => exact h.setActive _ _

end Sound

/-! ### Only an assigned claim carries a device -/

/-- An open claim that points at a device is assigned, and a ticket is tied to a claim that points at
one. The second half is what keeps a swap from giving a device to a claim that waits in a queue. -/
structure Carried (c : State υ δ κ τ) : Prop where
  assigned : ∀ {r x}, c.claim r = some x → x.device ≠ none → ¬ Ended x.status → x.status = .assigned
  tied : ∀ {t z r}, c.ticket t = some z → z.claim = some r →
    ∃ x, c.claim r = some x ∧ x.device ≠ none

/-- Tickets are opened against claims that point at a device. -/
def Act.Ties (c : State υ δ κ τ) : Act υ δ κ τ → Prop
  | .openTicket _ _ r => ∀ q ∈ r, ∃ x, c.claim q = some x ∧ x.device ≠ none
  | _ => True

namespace Carried

theorem setDevice (h : Carried c) (d : δ) (y : Device υ) : Carried (c.setDevice d y) :=
  ⟨h.assigned, h.tied⟩

theorem setActive (h : Carried c) (u : υ) (b : Bool) : Carried (c.setActive u b) :=
  ⟨h.assigned, h.tied⟩

theorem closeTickets (h : Carried c) (d : δ) : Carried (c.closeTickets d) where
  assigned := h.assigned
  tied {t z r} ht hz := by
    rw [State.closeTickets_ticket, Option.map_eq_some_iff] at ht
    obtain ⟨z₀, hz₀, rfl⟩ := ht
    refine h.tied hz₀ ?_
    split at hz <;> exact hz

theorem setTicket (h : Carried c) {t : τ} {z : Ticket δ κ}
    (htied : ∀ r, z.claim = some r → ∃ x, c.claim r = some x ∧ x.device ≠ none) :
    Carried (c.setTicket t z) where
  assigned := h.assigned
  tied {t' z' r} ht hz := by
    rw [State.setTicket_ticket] at ht
    split at ht
    · exact htied r (Option.some.inj ht ▸ hz)
    · exact h.tied ht hz

theorem setClaim (h : Carried c) {r : κ} {x : Claim υ δ}
    (hassigned : x.device ≠ none → ¬ Ended x.status → x.status = .assigned)
    (hkeeps : ∀ y, c.claim r = some y → y.device ≠ none → x.device ≠ none) :
    Carried (c.setClaim r x) where
  assigned {q y} hq hy hopen := by
    rw [State.setClaim_claim] at hq
    split at hq
    · obtain rfl := Option.some.inj hq
      exact hassigned hy hopen
    · exact h.assigned hq hy hopen
  tied {t z q} ht hz := by
    obtain ⟨y, hy, hdev⟩ := h.tied ht hz
    rw [State.setClaim_claim]
    by_cases hqr : q = r
    · rw [if_pos hqr]
      exact ⟨x, rfl, hkeeps y (hqr ▸ hy) hdev⟩
    · rw [if_neg hqr]
      exact ⟨y, hy, hdev⟩

theorem step (hs : Step c a c') (h : Carried c) (ok : a.Ties c) : Carried c' := by
  cases hs with
  | idle => exact h
  | addDevice => exact h.setDevice _ _
  | turn => exact h.setDevice _ _
  | addClaim fresh =>
    exact h.setClaim (fun hd => absurd rfl hd) fun y hy => absurd (fresh.symm.trans hy) nofun
  | decide hr hx _ ha =>
    refine h.setClaim (fun hd hopen => ?_) fun y hy hd => ?_
    · exact absurd (ha (h.assigned hr hd hx)) hopen
    · exact Option.some.inj (hr.symm.trans hy) ▸ hd
  | hand =>
    refine (h.setClaim ?_ ?_).setDevice _ _
    · exact fun _ _ => rfl
    · exact fun _ _ _ => Option.some_ne_none _
  | handNew =>
    refine (h.setClaim ?_ ?_).setDevice _ _
    · exact fun _ _ => rfl
    · exact fun _ _ _ => Option.some_ne_none _
  | complete hr =>
    refine ((h.setClaim ?_ ?_).setDevice _ _).closeTickets _
    · exact fun _ hopen => absurd (.inl rfl) hopen
    · exact fun y hy hd => Option.some.inj (hr.symm.trans hy) ▸ hd
  | closeTicket ht => exact h.setTicket fun r hr => h.tied ht hr
  | repair ht => exact (h.setDevice _ _).setTicket fun r hr => h.tied ht hr
  | swap ht hr =>
    -- the tied claim pointed at a device already, so it is assigned or ended
    obtain ⟨x, hx, hdev⟩ := h.tied ht rfl
    obtain rfl := Option.some.inj (hr.symm.trans hx)
    have hassigned := h.assigned hr hdev
    refine (((h.setClaim ?_ ?_).setDevice _ _).setDevice _ _).setTicket ?_
    · exact fun _ => hassigned
    · exact fun _ _ _ => Option.some_ne_none _
    · rintro _ ⟨⟩
      exact ⟨_, if_pos rfl, Option.some_ne_none _⟩
  | lose ht hr =>
    obtain ⟨x, hx, hdev⟩ := h.tied ht rfl
    obtain rfl := Option.some.inj (hr.symm.trans hx)
    refine ((h.setDevice _ _).setClaim ?_ ?_).setTicket ?_
    · exact fun _ hopen => absurd (.inl rfl) hopen
    · exact fun y hy hd => Option.some.inj (hr.symm.trans hy) ▸ hd
    · rintro _ ⟨⟩
      exact ⟨_, if_pos rfl, hdev⟩
  | openTicket => exact h.setTicket ok
  | addUser => exact h.setActive _ _
  | setActive => exact h.setActive _ _

/-- **One device, one open claim**: whatever their statuses, no two open claims point at one device. -/
theorem unique (h : Carried c) (hsound : Sound c) {r q : κ} {x y : Claim υ δ} {d : δ}
    (hr : c.claim r = some x) (hq : c.claim q = some y) (hx : x.device = some d) (hy : y.device = some d)
    (hrx : ¬ Ended x.status) (hqy : ¬ Ended y.status) : r = q := by
  have hxa := h.assigned hr (hx ▸ Option.some_ne_none d) hrx
  have hya := h.assigned hq (hy ▸ Option.some_ne_none d) hqy
  exact hsound.unique hr hq hx hy (hxa.trans hya.symm) hrx

end Carried

end AssetPilot.Custody
