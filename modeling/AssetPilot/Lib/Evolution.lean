import AssetPilot.Lib.System
import AssetPilot.Lib.Table
import Mathlib.Order.Defs.Unbundled

/-!
# Tables that only grow

`Table.Evolves R t t'`: every row of `t` is still stored in `t'`, changed at most along `R`. The rules for the
writes of a table, and `Run.rel`, which carries a reflexive and transitive relation of states from one step to a
whole run. Where a column changes only with a gain in rank, `Run.length_recorded_le` bounds how often it changes.
-/

namespace Relational.Table

variable {α κ : Type} [Keyed α κ] [DecidableEq κ] {R R' : α → α → Prop} {t t' t'' : Table α}

/-- No row of `t` is lost on the way to `t'`, and each has changed along `R`. -/
def Evolves (R : α → α → Prop) (t t' : Table α) : Prop :=
  ∀ k r, t.get? k = some r → ∃ r', t'.get? k = some r' ∧ R r r'

namespace Evolves

theorem refl [Std.Refl R] (t : Table α) : Evolves R t t := fun _ r h => ⟨r, h, Std.Refl.refl r⟩

theorem trans [IsTrans α R] (h : Evolves R t t') (h' : Evolves R t' t'') : Evolves R t t'' := by
  intro k r hr
  obtain ⟨r', hr', hrel⟩ := h k r hr
  obtain ⟨r'', hr'', hrel'⟩ := h' k r' hr'
  exact ⟨r'', hr'', IsTrans.trans _ _ _ hrel hrel'⟩

theorem set [Std.Refl R] {r r' : α} (hr : t.get? (Keyed.key r') = some r) (h : R r r') :
    Evolves R t (t.set r') := by
  intro k x hx
  rw [get?_set_of_get? hr]
  by_cases hk : k = Keyed.key r'
  · obtain rfl := Option.some.inj ((hk ▸ hr : t.get? k = some r).symm.trans hx)
    exact ⟨r', if_pos hk, h⟩
  · exact ⟨x, (if_neg hk).trans hx, Std.Refl.refl x⟩

theorem insert [Std.Refl R] {r : α} (hr : t.get? (Keyed.key r) = none) : Evolves R t (t.insert r) := by
  intro k x hx
  have hk : k ≠ Keyed.key r := by
    rintro rfl
    exact absurd (hr.symm.trans hx) (Option.some_ne_none x).symm
  exact ⟨x, (get?_insert hr k).trans ((if_neg hk).trans hx), Std.Refl.refl x⟩

theorem get?_ne_none (h : Evolves R t t') {k : κ} (hk : t.get? k ≠ none) : t'.get? k ≠ none := by
  obtain ⟨r, hr⟩ := Option.ne_none_iff_exists'.mp hk
  obtain ⟨r', hr', -⟩ := h k r hr
  exact hr' ▸ Option.some_ne_none r'

end Evolves

/-! ### A column and its rank -/

variable {β : Type} [DecidableEq β] {column : α → β} {rank : α → Nat} {r r' : α}

/-- The rank does not fall, and it grows when the column changes. -/
def Advances (column : α → β) (rank : α → Nat) (r r' : α) : Prop :=
  rank r + (if column r = column r' then 0 else 1) ≤ rank r'

instance : Std.Refl (Advances column rank) := ⟨fun r => by simp [Advances]⟩

theorem Advances.of_same (hcolumn : column r = column r') (hrank : rank r ≤ rank r') :
    Advances column rank r r' := by
  rw [Advances, if_pos hcolumn]
  exact hrank

theorem Advances.of_lt (hrank : rank r < rank r') : Advances column rank r r' := by
  unfold Advances
  split <;> omega

/-- How a value changed, where there is one before and after. -/
def changed : Option β → Option β → List (β × β)
  | some b, some b' => if b = b' then [] else [(b, b')]
  | _, _ => []

/-- The rank of the row under a key, `0` where there is none. -/
def rankAt (rank : α → Nat) (t : Table α) (k : κ) : Nat := ((t.get? k).map rank).getD 0

theorem Evolves.rankAt_le (h : Evolves (Advances column rank) t t') (k : κ) :
    rankAt rank t k + (changed ((t.get? k).map column) ((t'.get? k).map column)).length ≤ rankAt rank t' k := by
  unfold rankAt
  cases hr : t.get? k with
  | none => exact Nat.zero_le _
  | some r =>
    obtain ⟨r', hr', hadvances⟩ := h k r hr
    rw [hr']
    unfold Advances at hadvances
    simp only [Option.map_some, Option.getD_some, changed]
    split at hadvances <;> rename_i hcolumn
    · simpa [hcolumn] using hadvances
    · simpa [hcolumn] using hadvances

end Relational.Table

namespace System

variable {σ ε : Type} {step : σ → ε → σ → Prop} {ok : σ → ε → Prop} {s s' : σ}

/-- **The rule for relations of two states**: what an allowed step relates, a run relates. -/
theorem Run.rel {S : σ → σ → Prop} [Std.Refl S] [IsTrans σ S]
    (hstep : ∀ s e s', ok s e → step s e s' → S s s') (h : Run step ok s s') : S s s' :=
  h.inv (P := S s) (fun s₁ e s₂ hs hok hstep' => IsTrans.trans s s₁ s₂ hs (hstep s₁ e s₂ hok hstep'))
    (Std.Refl.refl s)

/-- **The rule for bounded histories**: where every step pays for what it records with a rank, the length of a
history is at most what the rank has gained. -/
theorem Run.length_recorded_le {ρ : Type} {record : σ → ε → List ρ} {allowed : σ × List ρ → ε → Prop}
    {s s₁ : σ × List ρ} (P : σ → Prop) (rank : σ → Nat) (hkept : ∀ s e s', P s → step s e s' → P s')
    (hstep : ∀ s e s', P s → step s e s' → rank s + (record s e).length ≤ rank s')
    (h : Run (Recorded step record) allowed s s₁) (hs : P s.1) : rank s.1 + s₁.2.length ≤ rank s₁.1 + s.2.length := by
  suffices hinv : P s₁.1 ∧ rank s.1 + s₁.2.length ≤ rank s₁.1 + s.2.length from hinv.2
  refine h.inv (P := fun s' => P s'.1 ∧ rank s.1 + s'.2.length ≤ rank s'.1 + s.2.length)
    (fun x e x' hold _ hrecorded => ?_) ⟨hs, Nat.le_refl _⟩
  obtain ⟨hP, hle⟩ := hold
  have hpaid := hstep x.1 e x'.1 hP hrecorded.1
  refine ⟨hkept x.1 e x'.1 hP hrecorded.1, ?_⟩
  rw [hrecorded.2, List.length_append]
  omega

end System
