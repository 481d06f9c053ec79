import AssetPilot.Custody.Model

/-!
# The lifecycle of a device

A relation `E` on the statuses is a lifecycle; an act follows it when every device that it turns goes along
an edge of `E`. `Step.follows_iff` reads off the act and the state before it which edges it needs.
-/

set_option linter.unusedSectionVars false

namespace AssetPilot.Custody

variable {υ δ κ τ : Type} [DecidableEq υ] [DecidableEq δ] [DecidableEq κ] [DecidableEq τ]
  {c c' : State υ δ κ τ} {E : DeviceStatus → DeviceStatus → Prop} {d : δ}

/-- Every device that is in both states stays in its status, or goes along an edge. -/
def Follows (E : DeviceStatus → DeviceStatus → Prop) (c c' : State υ δ κ τ) : Prop :=
  ∀ d x x', c.device d = some x → c'.device d = some x' → x'.status = x.status ∨ E x.status x'.status

/-- The device, if there is one, is in status `s` already or may go there. -/
def State.MayTurn (c : State υ δ κ τ) (E : DeviceStatus → DeviceStatus → Prop) (d : δ) (s : DeviceStatus) :
    Prop :=
  ∀ x, c.device d = some x → s = x.status ∨ E x.status s

/-- The edges that the act needs. -/
def Act.Along (c : State υ δ κ τ) (E : DeviceStatus → DeviceStatus → Prop) : Act υ δ κ τ → Prop
  | .turn d _ s' => c.MayTurn E d s'
  | .hand _ _ | .handNew _ _ _ => E .available .assigned
  | .complete _ d s => c.MayTurn E d s
  | .repair _ _ => E .underRepair .assigned
  | .swap _ _ d _ s => c.MayTurn E d s ∧ E .available .assigned
  | .lose _ _ d => c.MayTurn E d .lost
  | _ => True

theorem State.mayTurn_iff {x : Device υ} {s : DeviceStatus} (hd : c.device d = some x) :
    c.MayTurn E d s ↔ s = x.status ∨ E x.status s := by
  constructor
  · exact fun h => h x hd
  · intro h x' hx'
    obtain rfl := Option.some.inj (hd.symm.trans hx')
    exact h

/-! ### Writes of devices -/

theorem follows_of_same (h : c'.device = c.device) : Follows E c c' := by
  intro d x x' hx hx'
  rw [h, hx] at hx'
  obtain rfl := Option.some.inj hx'
  exact .inl rfl

theorem follows_set_iff {x : Device υ} {s : DeviceStatus} {u : Option υ} (hd : c.device d = some x)
    (h : ∀ e, c'.device e = if e = d then some ⟨s, u⟩ else c.device e) :
    Follows E c c' ↔ c.MayTurn E d s := by
  rw [State.mayTurn_iff hd]
  constructor
  · exact fun hfollows => hfollows d x ⟨s, u⟩ hd ((h d).trans (if_pos rfl))
  · intro hedge e y y' hy hy'
    rw [h] at hy'
    by_cases he : e = d
    · subst he
      rw [if_pos rfl] at hy'
      obtain rfl := Option.some.inj (hd.symm.trans hy)
      obtain rfl := Option.some.inj hy'
      exact hedge
    · rw [if_neg he, hy] at hy'
      obtain rfl := Option.some.inj hy'
      exact .inl rfl

theorem follows_set₂_iff {d' : δ} {x x' : Device υ} {s s' : DeviceStatus} {u u' : Option υ} (hne : d' ≠ d)
    (hd : c.device d = some x) (hd' : c.device d' = some x')
    (h : ∀ e, c'.device e =
      if e = d' then some ⟨s', u'⟩ else if e = d then some ⟨s, u⟩ else c.device e) :
    Follows E c c' ↔ c.MayTurn E d s ∧ c.MayTurn E d' s' := by
  rw [State.mayTurn_iff hd, State.mayTurn_iff hd']
  constructor
  · intro hfollows
    exact ⟨hfollows d x ⟨s, u⟩ hd ((h d).trans ((if_neg hne.symm).trans (if_pos rfl))),
      hfollows d' x' ⟨s', u'⟩ hd' ((h d').trans (if_pos rfl))⟩
  · rintro ⟨hedge, hedge'⟩ e y y' hy hy'
    rw [h] at hy'
    by_cases he' : e = d'
    · subst he'
      rw [if_pos rfl] at hy'
      obtain rfl := Option.some.inj (hd'.symm.trans hy)
      obtain rfl := Option.some.inj hy'
      exact hedge'
    · rw [if_neg he'] at hy'
      by_cases he : e = d
      · subst he
        rw [if_pos rfl] at hy'
        obtain rfl := Option.some.inj (hd.symm.trans hy)
        obtain rfl := Option.some.inj hy'
        exact hedge
      · rw [if_neg he, hy] at hy'
        obtain rfl := Option.some.inj hy'
        exact .inl rfl

theorem follows_add {y : Device υ} (fresh : c.device d = none)
    (h : ∀ e, c'.device e = if e = d then some y else c.device e) : Follows E c c' := by
  intro e x x' hx hx'
  have hne : e ≠ d := by
    rintro rfl
    exact absurd (fresh.symm.trans hx) (Option.some_ne_none x).symm
  rw [h, if_neg hne, hx] at hx'
  obtain rfl := Option.some.inj hx'
  exact .inl rfl

/-- **What an act needs of a lifecycle.** -/
theorem Step.follows_iff {a : Act υ δ κ τ} (h : Step c a c') : Follows E c c' ↔ a.Along c E := by
  cases h with
  | idle | addClaim | decide | closeTicket | openTicket | addUser | setActive =>
    exact iff_of_true (follows_of_same rfl) trivial
  | addDevice fresh => exact iff_of_true (follows_add fresh fun _ => rfl) trivial
  | turn hd => exact follows_set_iff hd fun _ => rfl
  | hand _ _ hd hy =>
    rw [follows_set_iff hd (fun _ => rfl), State.mayTurn_iff hd, hy]
    exact or_iff_right (by decide)
  | handNew _ _ hd hy =>
    rw [follows_set_iff hd (fun _ => rfl), State.mayTurn_iff hd, hy]
    exact or_iff_right (by decide)
  | complete _ _ hd => exact follows_set_iff hd fun _ => rfl
  | repair _ _ hd hy =>
    rw [follows_set_iff hd (fun _ => rfl), State.mayTurn_iff hd, hy]
    exact or_iff_right (by decide)
  | swap _ _ hd hd' hy' hne =>
    rw [follows_set₂_iff hne hd hd' (fun _ => rfl), State.mayTurn_iff hd', hy']
    exact and_congr_right' (or_iff_right (by decide))
  | lose _ _ hd => exact follows_set_iff hd fun _ => rfl

end AssetPilot.Custody
