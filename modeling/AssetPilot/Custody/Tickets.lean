import AssetPilot.Custody.Ownership

/-!
# Tickets and the assignment they are about

`Live`: an unresolved ticket is tied to the assigned claim on its device, and an assigned claim's device
has a holder. While it holds, resolving a ticket acts on the assignment the ticket was opened for.
-/

set_option linter.unusedSectionVars false

namespace AssetPilot.Custody

variable {υ δ κ τ : Type} [DecidableEq υ] [DecidableEq δ] [DecidableEq κ] [DecidableEq τ]
  {c c' : State υ δ κ τ} {a : Act υ δ κ τ} {r : κ} {d : δ} {t : τ}

/-- An unresolved ticket other than `t` is tied to `r`. -/
def State.WaitsOn (c : State υ δ κ τ) (t : Option τ) (r : κ) : Prop :=
  ∃ p z, some p ≠ t ∧ c.ticket p = some z ∧ z.resolved = false ∧ z.claim = some r

structure Live (c : State υ δ κ τ) : Prop where
  tied : ∀ {t z}, c.ticket t = some z → z.resolved = false →
    ∃ r x, z.claim = some r ∧ c.claim r = some x ∧ x.status = .assigned ∧ x.device = some z.device
  owned : ∀ {r x d}, c.claim r = some x → x.status = .assigned → x.device = some d →
    ∃ y, c.device d = some y ∧ y.holder ≠ none

/-- The acts that keep tickets live: a claim is not ended or moved while another ticket waits on it, an
ended claim does not give back what another claim has, and a ticket is opened on the assigned claim of
its device. -/
def Act.KeepsLive (c : State υ δ κ τ) : Act υ δ κ τ → Prop
  | .decide r _ => ∀ x, c.claim r = some x → x.status = .assigned → ¬ c.WaitsOn none r
  | .complete r d _ => ∀ x, c.claim r = some x → Ended x.status → ∀ u, ¬ c.Holds d u
  | .swap t r _ _ _ => ¬ c.WaitsOn (some t) r
  | .lose t r _ => ¬ c.WaitsOn (some t) r
  | .openTicket _ d r =>
    ∃ q x, r = some q ∧ c.claim q = some x ∧ x.status = .assigned ∧ x.device = some d
  | _ => True

namespace Live

theorem not_waitsOn (h : Live c) (hr : ∀ x, c.claim r = some x → x.status ≠ .assigned) :
    ¬ c.WaitsOn none r := by
  rintro ⟨p, z, -, hp, hz, hzr⟩
  obtain ⟨q, x, hq, hx, ha, -⟩ := h.tied hp hz
  obtain rfl := Option.some.inj (hzr.symm.trans hq)
  exact hr x hx ha

theorem setActive (h : Live c) (u : υ) (b : Bool) : Live (c.setActive u b) := ⟨h.tied, h.owned⟩

theorem setDevice {s : DeviceStatus} {o : Option υ} (h : Live c)
    (ho : o = none → ∀ r x, c.claim r = some x → x.status = .assigned → x.device ≠ some d) :
    Live (c.setDevice d ⟨s, o⟩) where
  tied := h.tied
  owned {r x e} hr ha hx := by
    rw [State.setDevice_device]
    by_cases hed : e = d
    · rw [if_pos hed]
      exact ⟨_, rfl, fun hnone => ho hnone r x hr ha (hed ▸ hx)⟩
    · rw [if_neg hed]
      exact h.owned hr ha hx

theorem setClaim {v : υ} {s : RequestStatus} {o : Option δ} (h : Live c) (hwait : ¬ c.WaitsOn none r)
    (howned : s = .assigned → ∀ d, o = some d → ∃ y, c.device d = some y ∧ y.holder ≠ none) :
    Live (c.setClaim r ⟨v, s, o⟩) where
  tied {t z} ht hz := by
    obtain ⟨q, x, hq, hx, hrest⟩ := h.tied ht hz
    have hqr : q ≠ r := fun hqr => hwait ⟨t, z, nofun, ht, hz, hqr ▸ hq⟩
    refine ⟨q, x, hq, ?_, hrest⟩
    rw [State.setClaim_claim, if_neg hqr]
    exact hx
  owned {q x d} hq ha hx := by
    rw [State.setClaim_claim] at hq
    split at hq
    · obtain rfl := Option.some.inj hq
      exact howned ha d hx
    · exact h.owned hq ha hx

theorem setStatus {y : Device υ} {s : DeviceStatus} (h : Live c) (hd : c.device d = some y) :
    Live (c.setDevice d ⟨s, y.holder⟩) := by
  refine h.setDevice fun hnone r x hr ha hx => ?_
  obtain ⟨w, hw, hholder⟩ := h.owned hr ha hx
  obtain rfl := Option.some.inj (hd.symm.trans hw)
  exact hholder hnone

theorem give {u v : υ} {s : RequestStatus} (h : Live c) (hwait : ¬ c.WaitsOn none r) :
    Live ((c.setDevice d ⟨.assigned, some u⟩).setClaim r ⟨v, s, some d⟩) := by
  have hgiven : Live (c.setDevice d ⟨.assigned, some u⟩) := h.setDevice nofun
  refine hgiven.setClaim hwait fun _ e he => ?_
  exact ⟨_, if_pos (Option.some.inj he).symm, Option.some_ne_none _⟩

theorem resolve {e : δ} {o : Option κ} (h : Live c) : Live (c.setTicket t ⟨e, o, true⟩) where
  tied {p z} hp hz := by
    rw [State.setTicket_ticket] at hp
    split at hp
    · obtain rfl := Option.some.inj hp
      exact nomatch hz
    · exact h.tied hp hz
  owned := h.owned

theorem not_waitsOn_resolve {e : δ} {o : Option κ} (hwait : ¬ c.WaitsOn (some t) r) :
    ¬ (c.setTicket t ⟨e, o, true⟩).WaitsOn none r := by
  rintro ⟨p, z, -, hp, hz, hzr⟩
  rw [State.setTicket_ticket] at hp
  split at hp
  · obtain rfl := Option.some.inj hp
    exact nomatch hz
  · next hpt => exact hwait ⟨p, z, fun hp => hpt (Option.some.inj hp), hp, hz, hzr⟩

theorem not_waitsOn_closeTickets (d : δ) (hwait : ∀ p z, c.ticket p = some z → z.resolved = false →
    z.claim = some r → z.device = d) : ¬ (c.closeTickets d).WaitsOn none r := by
  rintro ⟨p, z, -, hp, hz, hzr⟩
  rw [State.closeTickets_ticket, Option.map_eq_some_iff] at hp
  obtain ⟨w, hw, rfl⟩ := hp
  split at hz
  · exact nomatch hz
  · next hwd =>
    rw [if_neg hwd] at hzr
    exact hwd (hwait p w hw hz hzr)

theorem closeTickets (h : Live c) (d : δ) : Live (c.closeTickets d) where
  tied {t z} ht hz := by
    rw [State.closeTickets_ticket, Option.map_eq_some_iff] at ht
    obtain ⟨w, hw, rfl⟩ := ht
    split at hz
    · exact nomatch hz
    · next hwd =>
      rw [if_neg hwd]
      exact h.tied hw hz
  owned := h.owned

/-- **Tickets stay live** under the acts that keep them live. -/
theorem step (hs : Step c a c') (hsound : Sound c) (hcarried : Carried c) (h : Live c)
    (ok : a.KeepsLive c) : Live c' := by
  cases hs with
  | idle => exact h
  | @addDevice d fresh =>
    refine h.setDevice fun _ r x hr _ hx => ?_
    exact hsound.known hr hx fresh
  | turn hd => exact h.setStatus hd
  | addClaim fresh hs =>
    refine h.setClaim (h.not_waitsOn fun x hx => ?_) fun ha => absurd ha hs.1
    exact nomatch fresh.symm.trans hx
  | @decide r x s hr hx hs =>
    refine h.setClaim ?_ fun ha => absurd ha hs
    by_cases ha : x.status = .assigned
    · exact ok x hr ha
    · exact h.not_waitsOn fun z hz => Option.some.inj (hr.symm.trans hz) ▸ ha
  | hand hr hx =>
    refine h.give (h.not_waitsOn fun z hz hza => ?_)
    obtain rfl := Option.some.inj (hr.symm.trans hz)
    exact nomatch hx.symm.trans hza
  | handNew fresh => exact h.give (h.not_waitsOn fun z hz => nomatch fresh.symm.trans hz)
  | @complete r d s x y hr hx hd hy =>
    -- the tickets that wait on `r` are about `d`, and these are closed
    have hwait : ¬ (c.closeTickets d).WaitsOn none r := by
      refine not_waitsOn_closeTickets d fun p w hw hopen hwr => ?_
      obtain ⟨q, v, hq, hv, -, hvd⟩ := h.tied hw hopen
      obtain rfl := Option.some.inj (hwr.symm.trans hq)
      obtain rfl := Option.some.inj (hr.symm.trans hv)
      exact (Option.some.inj (hvd.symm.trans hx))
    have hended : Live ((c.closeTickets d).setClaim r ⟨x.claimant, .completed, x.device⟩) :=
      (h.closeTickets d).setClaim hwait nofun
    refine hended.setDevice fun _ q z hq hza hzd => ?_
    rw [State.setClaim_claim] at hq
    split at hq
    · obtain rfl := Option.some.inj hq
      exact nomatch hza
    · next hqr =>
      by_cases hopen : Ended x.status
      · exact ok x hr hopen z.claimant ⟨q, z, hq, hza, hzd, rfl⟩
      · have ha := hcarried.assigned hr (hx ▸ Option.some_ne_none d) hopen
        exact hsound.exclusive hr hx ha q z hqr hq hzd hza
  | closeTicket => exact h.resolve
  | repair ht hz hd => exact (h.setStatus hd).resolve
  | @swap t r d d' s x y y' ht hr hd hd' hy' hne excl =>
    obtain ⟨q, v, hq, hv, ha, hvd⟩ := h.tied ht rfl
    obtain rfl := Option.some.inj hq
    obtain rfl := Option.some.inj (hr.symm.trans hv)
    -- the ticket is resolved, `d'` given, the claim moved, and `d` released, in this order
    have hmoved : Live (((c.setTicket t ⟨d, some r, true⟩).setDevice d'
        ⟨.assigned, some x.claimant⟩).setClaim r ⟨x.claimant, x.status, some d'⟩) :=
      h.resolve.give (not_waitsOn_resolve ok)
    rw [State.setDevice_comm _ hne.symm]
    refine hmoved.setDevice fun _ q z hq hza hzd => ?_
    rw [State.setClaim_claim] at hq
    split at hq
    · obtain rfl := Option.some.inj hq
      exact hne (Option.some.inj hzd)
    · next hqr => exact hsound.exclusive hr hvd ha q z hqr hq hzd hza
  | @lose t r d x y ht hr hd =>
    have hlost : Live ((c.setTicket t ⟨d, some r, true⟩).setDevice d ⟨.lost, y.holder⟩) :=
      h.resolve.setStatus hd
    exact hlost.setClaim (not_waitsOn_resolve ok) nofun
  | openTicket fresh =>
    obtain ⟨q, x, rfl, hq, ha, hd⟩ := ok
    refine ⟨fun {p z} hp hz => ?_, h.owned⟩
    rw [State.setTicket_ticket] at hp
    split at hp
    · obtain rfl := Option.some.inj hp
      exact ⟨q, x, rfl, hq, ha, hd⟩
    · exact h.tied hp hz
  | addUser => exact h.setActive _ _
  | setActive => exact h.setActive _ _

end Live

end AssetPilot.Custody
