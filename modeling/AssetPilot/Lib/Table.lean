import Mathlib.Data.List.Nodup
import Mathlib.Data.Option.Basic

/-!
# Keyed tables

A table is a list of rows whose primary keys are distinct; the list order is the insertion order.
`get?` looks a row up by key, `insert` appends a row with a new key, `set` overwrites the row with
the same key. Everything a proof needs about a table after a write is `get?_set`, `get?_insert` and
`mem_iff_get?`.
-/

namespace Relational

/-- A row type with a primary key. -/
class Keyed (α : Type) (κ : outParam Type) where
  key : α → κ

/-- Rows with pairwise distinct primary keys. -/
structure Table (α : Type) {κ : Type} [Keyed α κ] where
  rows : List α
  nodup : (rows.map Keyed.key).Nodup

namespace Table

variable {α κ : Type} [Keyed α κ]

instance : Membership α (Table α) := ⟨fun t r => r ∈ t.rows⟩

theorem mem_def {t : Table α} {r : α} : r ∈ t ↔ r ∈ t.rows := Iff.rfl

/-- The table without rows. -/
def empty : Table α := ⟨[], List.nodup_nil⟩

instance : Inhabited (Table α) := ⟨empty⟩

variable [DecidableEq κ]

/-- The row with primary key `k`. -/
def get? (t : Table α) (k : κ) : Option α := t.rows.find? fun r => Keyed.key r = k

/-- An optional reference points at an existing row (a null reference is fine). -/
def References (t : Table α) (k : Option κ) : Prop := ∀ x ∈ k, t.get? x ≠ none

theorem get?_key {t : Table α} {k : κ} {r : α} (h : t.get? k = some r) : Keyed.key r = k := by
  simpa using List.find?_some h

theorem get?_mem {t : Table α} {k : κ} {r : α} (h : t.get? k = some r) : r ∈ t :=
  List.mem_of_find?_eq_some h

theorem mem_iff_get? {t : Table α} {r : α} : r ∈ t ↔ t.get? (Keyed.key r) = some r := by
  refine ⟨fun h => ?_, get?_mem⟩
  obtain ⟨rows, nodup⟩ := t
  induction rows with
  | nil => exact absurd h List.not_mem_nil
  | cons x rows ih =>
    rw [List.map_cons, List.nodup_cons] at nodup
    rcases List.mem_cons.mp h with rfl | h
    · simp [get?]
    · have hne : Keyed.key x ≠ Keyed.key r := fun he =>
        nodup.1 (he ▸ List.mem_map_of_mem h)
      have := ih nodup.2 h
      simpa [get?, List.find?_cons, hne] using this

theorem get?_eq_none_iff {t : Table α} {k : κ} :
    t.get? k = none ↔ ∀ r ∈ t, Keyed.key r ≠ k := by
  simp [get?, mem_def]

/-- Overwrite the row that has the key of `r`; nothing happens when there is none. -/
def set (t : Table α) (r : α) : Table α where
  rows := t.rows.map fun x => if Keyed.key x = Keyed.key r then r else x
  nodup := by
    have : (Keyed.key ∘ fun x => if Keyed.key x = Keyed.key r then r else x) = Keyed.key := by
      funext x
      by_cases h : Keyed.key x = Keyed.key r <;> simp [h]
    rw [List.map_map, this]
    exact t.nodup

/-- Append a row; nothing happens when its key is taken. -/
def insert (t : Table α) (r : α) : Table α :=
  if h : t.get? (Keyed.key r) = none then
    { rows := t.rows ++ [r]
      nodup := by
        rw [List.map_append, List.map_singleton]
        refine List.Nodup.append t.nodup (List.nodup_singleton _) ?_
        simp only [List.disjoint_singleton, List.mem_map, not_exists, not_and]
        exact fun x hx => get?_eq_none_iff.mp h x hx }
  else t

theorem get?_set (t : Table α) (r : α) (k : κ) :
    (t.set r).get? k = if k = Keyed.key r then (t.get? k).map fun _ => r else t.get? k := by
  obtain ⟨rows, nodup⟩ := t
  simp only [get?, set]
  clear nodup
  induction rows with
  | nil => simp
  | cons x rows ih =>
    rw [List.map_cons, List.find?_cons, List.find?_cons]
    by_cases hx : Keyed.key x = Keyed.key r
    · by_cases hk : k = Keyed.key r
      · simp [hx, hk]
      · have hk' : Keyed.key r ≠ k := fun h => hk h.symm
        simpa [hx, hk, hk'] using ih
    · by_cases hk : Keyed.key x = k
      · have hkr : k ≠ Keyed.key r := fun h => hx (hk.trans h)
        simp [hk, hkr]
      · simpa [hx, hk] using ih

theorem get?_set_of_get? {t : Table α} {r r₀ : α} (h : t.get? (Keyed.key r) = some r₀) (k : κ) :
    (t.set r).get? k = if k = Keyed.key r then some r else t.get? k := by
  rw [get?_set]
  split_ifs with hk
  · rw [hk, h, Option.map_some]
  · rfl

theorem get?_set_self {t : Table α} {r r₀ : α} {k : κ} (h : t.get? k = some r₀) (hk : Keyed.key r = k) :
    (t.set r).get? k = some r := by
  subst hk
  exact (get?_set_of_get? h _).trans (if_pos rfl)

theorem get?_set_of_ne {t : Table α} {r : α} {k : κ} (h : k ≠ Keyed.key r) :
    (t.set r).get? k = t.get? k := by
  rw [get?_set, if_neg h]

theorem get?_set_set {t : Table α} {a b a₀ b₀ : α} (ha : t.get? (Keyed.key a) = some a₀)
    (hb : t.get? (Keyed.key b) = some b₀) (hne : Keyed.key b ≠ Keyed.key a) (k : κ) :
    ((t.set a).set b).get? k =
      if k = Keyed.key b then some b else if k = Keyed.key a then some a else t.get? k := by
  have hstored : (t.set a).get? (Keyed.key b) = some b₀ := (get?_set_of_ne hne).trans hb
  rw [get?_set_of_get? hstored, get?_set_of_get? ha]

theorem get?_insert {t : Table α} {r : α} (h : t.get? (Keyed.key r) = none) (k : κ) :
    (t.insert r).get? k = if k = Keyed.key r then some r else t.get? k := by
  rw [insert, dif_pos h]
  simp only [get?, List.find?_append]
  by_cases hk : k = Keyed.key r
  · subst hk
    rw [if_pos rfl]
    rw [get?] at h
    simp [h]
  · have hk' : Keyed.key r ≠ k := fun h => hk h.symm
    simp [hk, hk']

theorem map_get?_set {β : Type} {t : Table α} {r r₀ : α} (h : t.get? (Keyed.key r) = some r₀)
    (f : α → β) (k : κ) : ((t.set r).get? k).map f =
      if k = Keyed.key r then some (f r) else (t.get? k).map f := by
  rw [get?_set_of_get? h]
  split <;> rfl

theorem map_get?_insert {β : Type} {t : Table α} {r : α} (h : t.get? (Keyed.key r) = none)
    (f : α → β) (k : κ) : ((t.insert r).get? k).map f =
      if k = Keyed.key r then some (f r) else (t.get? k).map f := by
  rw [get?_insert h]
  split <;> rfl

theorem mem_set {t : Table α} {r x : α} :
    x ∈ t.set r ↔ (x = r ∧ t.get? (Keyed.key r) ≠ none) ∨ (x ∈ t ∧ Keyed.key x ≠ Keyed.key r) := by
  rw [mem_iff_get?, get?_set]
  split_ifs with hk
  · rw [hk]
    cases h : t.get? (Keyed.key r) <;> simp [eq_comm]
  · have hne : x ≠ r := fun h => hk (h ▸ rfl)
    simp [mem_iff_get?, hk, hne]

theorem set_of_get? {t : Table α} {r : α} (h : t.get? (Keyed.key r) = some r) : t.set r = t := by
  have hrow : ∀ x ∈ t.rows, (if Keyed.key x = Keyed.key r then r else x) = x := by
    intro x hx
    by_cases hk : Keyed.key x = Keyed.key r
    · rw [if_pos hk]
      exact Option.some.inj (h.symm.trans (hk ▸ mem_iff_get?.mp hx))
    · exact if_neg hk
  obtain ⟨rows, nodup⟩ := t
  simp only [set, mk.injEq]
  exact (List.map_congr_left hrow).trans (List.map_id rows)

theorem mem_insert {t : Table α} {r x : α} (h : t.get? (Keyed.key r) = none) :
    x ∈ t.insert r ↔ x ∈ t ∨ x = r := by
  rw [insert, dif_pos h]
  simp [mem_def]

theorem find?_insert {t : Table α} {r : α} {p : α → Bool} (h : t.get? (Keyed.key r) = none)
    (hrows : t.rows.find? p = none) (hr : p r = true) : (t.insert r).rows.find? p = some r := by
  rw [insert, dif_pos h]
  simp [List.find?_append, hrows, hr]

theorem get?_set_eq_none {t : Table α} {r : α} {k : κ} :
    (t.set r).get? k = none ↔ t.get? k = none := by
  rw [get?_set]
  split_ifs
  · exact Option.map_eq_none_iff
  · rfl

@[simp] theorem references_set {t : Table α} {r : α} {k : Option κ} :
    (t.set r).References k ↔ t.References k :=
  forall₂_congr fun _ _ => not_congr get?_set_eq_none

instance decidableReferences (t : Table α) (k : Option κ) : Decidable (t.References k) :=
  match k with
  | none => isTrue fun _ h => nomatch h
  | some x => decidable_of_iff (t.get? x ≠ none) (by simp [References])

theorem references_insert {t : Table α} {r : α} {k : Option κ} (h : t.get? (Keyed.key r) = none)
    (hk : t.References k) : (t.insert r).References k := by
  intro x hx
  rw [get?_insert h]
  split
  · exact Option.some_ne_none r
  · exact hk x hx

theorem references_none {t : Table α} : t.References none := fun _ h => absurd h (Option.not_mem_none _)

theorem references_of_get? {t : Table α} {k : κ} {r : α} (h : t.get? k = some r) : t.References (some k) := by
  intro x hx
  obtain rfl := Option.some.inj hx
  rw [h]
  exact Option.some_ne_none r

theorem references_insert_self {t : Table α} {r : α} (h : t.get? (Keyed.key r) = none) :
    (t.insert r).References (some (Keyed.key r)) := by
  refine references_of_get? (r := r) ?_
  rw [get?_insert h, if_pos rfl]

/-! ### Uniqueness -/

/-- The row stands in the relation `R` to every row with another key. -/
def Apart (R : α → α → Prop) (t : Table α) (r : α) : Prop :=
  ∀ x ∈ t.rows, Keyed.key x ≠ Keyed.key r → R x r

/-- **A unique index is kept by an overwritten row** that satisfies it. -/
theorem forall_apart_set {R : α → α → Prop} (hsymm : ∀ x y, R x y → R y x) {t : Table α} {r : α}
    (h : ∀ x ∈ t.rows, Apart R t x) (hr : Apart R t r) : ∀ x ∈ (t.set r).rows, Apart R (t.set r) x := by
  intro x hx y hy hne
  rcases mem_set.mp hx with ⟨rfl, -⟩ | ⟨hx', hxr⟩
  · rcases mem_set.mp hy with ⟨rfl, -⟩ | ⟨hy', -⟩
    · exact absurd rfl hne
    · exact hr y hy' hne
  · rcases mem_set.mp hy with ⟨rfl, -⟩ | ⟨hy', -⟩
    · exact hsymm _ _ (hr x hx' hxr)
    · exact h x hx' y hy' hne

/-- **A unique index is kept by an appended row** that satisfies it. -/
theorem forall_apart_insert {R : α → α → Prop} (hsymm : ∀ x y, R x y → R y x) {t : Table α} {r : α}
    (hfresh : t.get? (Keyed.key r) = none) (h : ∀ x ∈ t.rows, Apart R t x) (hr : Apart R t r) :
    ∀ x ∈ (t.insert r).rows, Apart R (t.insert r) x := by
  intro x hx y hy hne
  rcases (mem_insert hfresh).mp hx with hx' | rfl
  · rcases (mem_insert hfresh).mp hy with hy' | rfl
    · exact h x hx' y hy' hne
    · exact hsymm _ _ (hr x hx' hne.symm)
  · rcases (mem_insert hfresh).mp hy with hy' | rfl
    · exact hr y hy' hne
    · exact absurd rfl hne

theorem forall_mem_set {P : α → Prop} {t : Table α} {r : α} (h : ∀ x ∈ t.rows, P x) (hr : P r) :
    ∀ x ∈ (t.set r).rows, P x := by
  intro x hx
  rcases mem_set.mp hx with ⟨rfl, -⟩ | ⟨hx, -⟩
  · exact hr
  · exact h x hx

theorem forall_mem_insert {P : α → Prop} {t : Table α} {r : α} (hfresh : t.get? (Keyed.key r) = none)
    (h : ∀ x ∈ t.rows, P x) (hr : P r) : ∀ x ∈ (t.insert r).rows, P x := by
  intro x hx
  rcases (mem_insert hfresh).mp hx with hx | rfl
  · exact h x hx
  · exact hr

end Table

end Relational
