import Mathlib.Data.List.Nodup
import Mathlib.Data.List.Pairwise
import Mathlib.Data.List.Sort

/-!
# Answers to `ORDER BY`

A query with an `ORDER BY` answers with its rows in some order that sorts their keys; rows whose keys are equal
come as they come. `OrderBy le` is one such answer for every list of rows. A row stands at one of the positions
from `before` up to `notAfter`, and at each end of them in some answer, so that the answer is determined exactly
where no two keys are equal (`sort_fixed_iff`).
-/

namespace Relational

variable {α : Type} {le : α → α → Prop} {rows : List α} {x y : α}

/-- An order of the rows in which every two of them are in the relation `le` of their keys. -/
structure OrderBy (le : α → α → Prop) where
  sort : List α → List α
  perm : ∀ rows, (sort rows).Perm rows
  sorted : ∀ rows, (sort rows).Pairwise le

/-- The order does not depend on what `f` changes in a row. -/
def OrderBy.Respects (order : OrderBy le) (f : α → α) : Prop :=
  ∀ rows, order.sort (rows.map f) = (order.sort rows).map f

/-! ### Sort keys -/

variable {κ : Type} [LinearOrder κ] {key : α → κ} {r s : α → α → Prop}

/-- `ORDER BY key ASC`. -/
def Asc (key : α → κ) (x y : α) : Prop := key x ≤ key y

/-- `ORDER BY key DESC`. -/
def Desc (key : α → κ) (x y : α) : Prop := key y ≤ key x

/-- `ORDER BY r, s`: the second key counts among rows whose first keys are equal. -/
def Then (r s : α → α → Prop) (x y : α) : Prop := r x y ∧ (r y x → s x y)

instance : DecidableRel (Asc key) := fun x y => inferInstanceAs (Decidable (key x ≤ key y))
instance : DecidableRel (Desc key) := fun x y => inferInstanceAs (Decidable (key y ≤ key x))
instance [DecidableRel r] [DecidableRel s] : DecidableRel (Then r s) := fun x y =>
  inferInstanceAs (Decidable (r x y ∧ (r y x → s x y)))

instance : Std.Total (Asc key) := ⟨fun x y => le_total (key x) (key y)⟩
instance : Std.Total (Desc key) := ⟨fun x y => le_total (key y) (key x)⟩
instance : IsTrans α (Asc key) := ⟨fun _ _ _ hxy hyz => le_trans hxy hyz⟩
instance : IsTrans α (Desc key) := ⟨fun _ _ _ hxy hyz => le_trans hyz hxy⟩

instance [Std.Total r] [Std.Total s] : Std.Total (Then r s) where
  total x y := by
    have hr : r x y ∨ r y x := Std.Total.total x y
    have hs : s x y ∨ s y x := Std.Total.total x y
    unfold Then
    tauto

instance [IsTrans α r] [IsTrans α s] : IsTrans α (Then r s) where
  trans x y z hxy hyz := by
    refine ⟨IsTrans.trans x y z hxy.1 hyz.1, fun hzx => ?_⟩
    have hyx : r y x := IsTrans.trans y z x hyz.1 hzx
    have hzy : r z y := IsTrans.trans z x y hzx hxy.1
    exact IsTrans.trans x y z (hxy.2 hyx) (hyz.2 hzy)

namespace OrderBy

@[simp] theorem mem_sort (o : OrderBy le) : x ∈ o.sort rows ↔ x ∈ rows := (o.perm rows).mem_iff

@[simp] theorem length_sort (o : OrderBy le) : (o.sort rows).length = rows.length := (o.perm rows).length_eq

theorem head?_sort (o : OrderBy le) (hsame : ∀ a ∈ rows, ∀ b ∈ rows, a = b) :
    (o.sort rows).head? = some x ↔ x ∈ rows := by
  constructor
  · exact fun hx => o.mem_sort.mp (List.mem_of_mem_head? hx)
  · intro hx
    obtain ⟨y, hy⟩ := Option.ne_none_iff_exists'.mp fun hnone =>
      List.ne_nil_of_mem (o.mem_sort.mpr hx) (List.head?_eq_none_iff.mp hnone)
    rw [hy, hsame x hx y (o.mem_sort.mp (List.mem_of_mem_head? hy))]

/-- `LIMIT n` leaves out no row that would come before one that it shows. -/
theorem le_of_mem_take (o : OrderBy le) {n : Nat} (hx : x ∈ (o.sort rows).take n) (hy : y ∈ rows)
    (hnot : y ∉ (o.sort rows).take n) : le x y := by
  have hsorted := o.sorted rows
  rw [← List.take_append_drop n (o.sort rows)] at hsorted
  have hrest : y ∈ (o.sort rows).drop n := by
    rw [← o.mem_sort, ← List.take_append_drop n (o.sort rows)] at hy
    exact (List.mem_append.mp hy).resolve_left hnot
  exact (List.pairwise_append.mp hsorted).2.2 x hx y hrest

variable [Std.Total le]

theorem le_of_not {a b : α} (h : ¬ le a b) : le b a := (Std.Total.total a b).resolve_left h

theorem le_refl (le : α → α → Prop) [Std.Total le] (a : α) : le a a := (Std.Total.total a a).elim id id

theorem sort_eq_self (o : OrderBy le) (h : rows.Pairwise fun x y => ¬ le y x) : o.sort rows = rows := by
  have hsymm : Std.Symm fun x y => ¬ (le x y ∧ le y x) := ⟨fun _ _ hne hle => hne hle.symm⟩
  have hties : rows.Pairwise fun x y => ¬ (le x y ∧ le y x) := h.imp fun hne hle => hne hle.2
  refine (o.perm rows).eq_of_pairwise (fun a b ha hb hab hba => ?_) (o.sorted rows) (h.imp le_of_not)
  by_contra hne
  exact hties.forall (o.mem_sort.mp ha) hb hne ⟨hab, hba⟩

variable [DecidableRel le]

/-- The number of rows that come before `x` in every answer. -/
def before (le : α → α → Prop) [DecidableRel le] (rows : List α) (x : α) : Nat := rows.countP fun y => ¬ le x y

/-- The number of rows that come after `x` in no answer, `x` among them. -/
def notAfter (le : α → α → Prop) [DecidableRel le] (rows : List α) (x : α) : Nat := rows.countP fun y => le y x

/-! ### The position of a row -/

variable [DecidableEq α]

theorem before_le_idxOf (o : OrderBy le) (hx : x ∈ rows) : before le rows x ≤ (o.sort rows).idxOf x := by
  obtain ⟨l₁, l₂, hl, hnot⟩ := List.eq_append_cons_of_mem (o.mem_sort.mpr hx)
  have hsorted : (x :: l₂).Pairwise le := (List.pairwise_append.mp (hl ▸ o.sorted rows)).2.1
  -- what comes after `x` is not smaller
  have hafter : (x :: l₂).countP (fun y => ¬ le x y) = 0 := by
    rw [List.countP_eq_zero]
    intro y hy
    rcases List.mem_cons.mp hy with rfl | hy
    · simp [le_refl le y]
    · simp [(List.pairwise_cons.mp hsorted).1 y hy]
  have hcount : before le rows x = l₁.countP fun y => ¬ le x y := by
    rw [before, ← (o.perm rows).countP_eq, hl, List.countP_append, hafter, Nat.add_zero]
  rw [hcount, hl, List.idxOf_append_of_notMem hnot]
  exact List.countP_le_length.trans (Nat.le_add_right _ _)

theorem idxOf_lt_notAfter (o : OrderBy le) (hx : x ∈ rows) : (o.sort rows).idxOf x < notAfter le rows x := by
  obtain ⟨l₁, l₂, hl, hnot⟩ := List.eq_append_cons_of_mem (o.mem_sort.mpr hx)
  have hcross := (List.pairwise_append.mp (hl ▸ o.sorted rows)).2.2
  have hbefore : l₁.countP (fun y => le y x) = l₁.length := by
    rw [List.countP_eq_length]
    intro y hy
    simp [hcross y hy x List.mem_cons_self]
  have hself : 0 < (x :: l₂).countP fun y => le y x :=
    List.countP_pos_iff.mpr ⟨x, List.mem_cons_self, by simp [le_refl le x]⟩
  have hcount : notAfter le rows x = l₁.length + (x :: l₂).countP fun y => le y x := by
    rw [notAfter, ← (o.perm rows).countP_eq, hl, List.countP_append, hbefore]
  rw [hcount, hl, List.idxOf_append_of_notMem hnot, List.idxOf_cons_self]
  omega

/-! ### Some answers -/

variable [IsTrans α le]

/-- Rows with equal keys stay in the order in which they are. -/
def stable : OrderBy le where
  sort := List.insertionSort le
  perm := List.perm_insertionSort le
  sorted := List.pairwise_insertionSort le

/-- These rows come in this order. -/
def answering (rows answer : List α) (hperm : answer.Perm rows) (hsorted : answer.Pairwise le) : OrderBy le where
  sort l := if l = rows then answer else l.insertionSort le
  perm l := by
    split
    · next h => exact h ▸ hperm
    · exact List.perm_insertionSort le l
  sorted l := by
    split
    · exact hsorted
    · exact List.pairwise_insertionSort le l

@[simp] theorem answering_sort {answer : List α} (hperm : answer.Perm rows) (hsorted : answer.Pairwise le) :
    (answering rows answer hperm hsorted).sort rows = answer := if_pos rfl

theorem exists_split {p : α → Bool} (hx : x ∈ rows) (hfst : ∀ y ∈ rows, p y = true → le y x)
    (hsnd : ∀ y ∈ rows, p y = false → le x y) (hself : p x = false) :
    ∃ o : OrderBy le, (o.sort rows).idxOf x = rows.countP p := by
  have hmem : x ∈ rows.filter fun y => !p y := List.mem_filter.mpr ⟨hx, by simp [hself]⟩
  let fst := (stable : OrderBy le).sort (rows.filter p)
  let snd := (stable : OrderBy le).sort ((rows.filter fun y => !p y).erase x)
  have hfst' : ∀ y ∈ fst, le y x := fun y hy => by
    obtain ⟨hy, hp⟩ := List.mem_filter.mp (stable.mem_sort.mp hy)
    exact hfst y hy hp
  have hsnd' : ∀ y ∈ snd, le x y := fun y hy => by
    obtain ⟨hy, hp⟩ := List.mem_filter.mp (List.mem_of_mem_erase (stable.mem_sort.mp hy))
    exact hsnd y hy (by simpa using hp)
  have hperm : (fst ++ x :: snd).Perm rows :=
    ((stable.perm _).append (((stable.perm _).cons x).trans (List.perm_cons_erase hmem).symm)).trans
      (List.filter_append_perm p rows)
  have hsorted : (fst ++ x :: snd).Pairwise le := by
    refine List.pairwise_append.mpr ⟨stable.sorted _, List.pairwise_cons.mpr ⟨hsnd', stable.sorted _⟩, ?_⟩
    intro y hy z hz
    rcases List.mem_cons.mp hz with rfl | hz
    · exact hfst' y hy
    · exact IsTrans.trans y x z (hfst' y hy) (hsnd' z hz)
  have hnot : x ∉ fst := fun h => by
    have := (List.mem_filter.mp (stable.mem_sort.mp h)).2
    exact Bool.false_ne_true (hself ▸ this)
  refine ⟨answering rows _ hperm hsorted, ?_⟩
  rw [answering_sort, List.idxOf_append_of_notMem hnot, List.idxOf_cons_self, Nat.add_zero, length_sort,
    List.countP_eq_length_filter]

theorem exists_first (hx : x ∈ rows) : ∃ o : OrderBy le, (o.sort rows).idxOf x = before le rows x := by
  refine exists_split hx (fun y _ hp => ?_) (fun y _ hp => ?_) (by simp [le_refl le x])
  · exact le_of_not (of_decide_eq_true hp)
  · exact not_not.mp (of_decide_eq_false hp)

theorem exists_last (hnodup : rows.Nodup) (hx : x ∈ rows) :
    ∃ o : OrderBy le, (o.sort rows).idxOf x + 1 = notAfter le rows x := by
  have hsnd : ∀ y ∈ rows, decide (le y x ∧ y ≠ x) = false → le x y := fun y _ hp => by
    by_cases hyx : y = x
    · exact hyx ▸ le_refl le y
    · exact le_of_not fun hle => of_decide_eq_false hp ⟨hle, hyx⟩
  obtain ⟨o, ho⟩ : ∃ o : OrderBy le, (o.sort rows).idxOf x = rows.countP fun y => le y x ∧ y ≠ x :=
    exists_split hx (fun y _ hp => (of_decide_eq_true hp).1) hsnd (by simp)
  refine ⟨o, ?_⟩
  have hcount := (List.perm_cons_erase hx).countP_eq fun y => decide (le y x)
  have hothers : rows.countP (fun y => le y x ∧ y ≠ x) = (rows.erase x).countP fun y => le y x := by
    rw [hnodup.erase_eq_filter, List.countP_filter]
    exact List.countP_congr fun y _ => by simp
  rw [ho, hothers, notAfter, hcount, List.countP_cons_of_pos (by simp [le_refl le x])]

/-! ### Determined answers -/

/-- **Every answer leaves the rows in their order** exactly when their keys increase. -/
theorem sort_fixed_iff (hnodup : rows.Nodup) :
    (∀ o : OrderBy le, o.sort rows = rows) ↔ rows.Pairwise fun x y => ¬ le y x := by
  refine ⟨fun hfixed => ?_, fun h o => o.sort_eq_self h⟩
  have hsorted : rows.Pairwise le := hfixed stable ▸ stable.sorted rows
  refine List.pairwise_iff_getElem.mpr fun i j hi hj hij hle => ?_
  have hle' : le rows[i] rows[j] := List.pairwise_iff_getElem.mp hsorted i j hi hj hij
  -- two rows with equal keys may stand at the same first position
  have hbefore : before le rows rows[j] = before le rows rows[i] := by
    refine List.countP_congr fun z _ => ?_
    simp only [decide_eq_true_eq, not_iff_not]
    exact ⟨IsTrans.trans _ _ _ hle', IsTrans.trans _ _ _ hle⟩
  obtain ⟨o, ho⟩ : ∃ o : OrderBy le, (o.sort rows).idxOf rows[j] = before le rows rows[j] :=
    exists_first (List.getElem_mem hj)
  have hfirst := before_le_idxOf (stable : OrderBy le) (List.getElem_mem hi)
  rw [hfixed, hnodup.idxOf_getElem] at ho hfirst
  omega

end OrderBy

end Relational
