import Mathlib.Algebra.BigOperators.Group.List.Basic
import Mathlib.Algebra.GroupWithZero.Nat
import Mathlib.Data.List.Dedup

/-!
# Grouped counts

`groupCounts key rows` is the answer to `SELECT key, count(*) GROUP BY key`, a row for each key that occurs. The
counts of some keys add up to the number of the rows that have one of them (`sum_countP_key`).
-/

namespace Relational

variable {α κ : Type} [DecidableEq κ] {key : α → κ} {rows : List α} {k : κ}

def groupCounts (key : α → κ) (rows : List α) : List (κ × Nat) :=
  (rows.map key).dedup.map fun k => (k, rows.countP fun a => key a = k)

theorem getD_lookup_groupCounts :
    ((groupCounts key rows).lookup k).getD 0 = rows.countP fun a => key a = k := by
  by_cases hk : k ∈ (rows.map key).dedup
  · rw [groupCounts, List.lookup_graph _ hk, Option.getD_some]
  · have hnone : (groupCounts key rows).lookup k = none := by
      rw [groupCounts, List.lookup_eq_none_iff]
      rintro x hx
      obtain ⟨k', hk', rfl⟩ := List.mem_map.mp hx
      have hne : k ≠ k' := fun he => hk (he ▸ hk')
      simpa using hne
    have hcount : rows.countP (fun a => key a = k) = 0 := by
      rw [List.countP_eq_zero]
      intro a ha hkey
      exact hk (List.mem_dedup.mpr (List.mem_map.mpr ⟨a, ha, of_decide_eq_true hkey⟩))
    rw [hnone, hcount, Option.getD_none]

/-- **The counts of keys add up.** -/
theorem sum_countP_key (key : α → κ) (rows : List α) {keys : List κ} (hnodup : keys.Nodup) :
    (keys.map fun k => rows.countP fun a => key a = k).sum = rows.countP fun a => key a ∈ keys := by
  induction keys with
  | nil => simp
  | cons k keys ih =>
    obtain ⟨hk, hnodup⟩ := List.nodup_cons.mp hnodup
    have hfirst : (rows.countP fun a => key a ∈ k :: keys ∧ key a = k) = rows.countP fun a => key a = k :=
      List.countP_congr fun a _ => by simp +contextual
    have hrest : (rows.countP fun a => key a ∈ k :: keys ∧ ¬ key a = k) = rows.countP fun a => key a ∈ keys := by
      refine List.countP_congr fun a _ => ?_
      by_cases ha : key a = k <;> simp [ha, hk]
    rw [List.map_cons, List.sum_cons, ih hnodup, ← hfirst, ← hrest,
      List.countP_eq_countP_filter_add rows (fun a => key a ∈ k :: keys) fun a => key a = k, List.countP_filter,
      List.countP_filter]
    simp only [Bool.decide_and, decide_not]

end Relational
