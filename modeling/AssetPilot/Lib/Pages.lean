import AssetPilot.Lib.OrderBy

/-!
# Pages

The page `p` of a list, counted from 0, for pages of `k` rows. Where every page is taken from an answer of its
own to one `ORDER BY`, the pages make up the rows exactly when no rows with equal keys are on two of them
(`pages_perm_iff`).
-/

namespace Relational

variable {α : Type} {k p q n : Nat} {rows : List α} {l : Nat → List α} {x : α}

/-- `OFFSET p * k LIMIT k`. -/
def page (k p : Nat) (rows : List α) : List α := (rows.drop (p * k)).take k

/-- The number of pages of `n` rows. -/
def pageCount (k n : Nat) : Nat := (n + k - 1) / k

theorem lt_pageCount (hk : 0 < k) : p < pageCount k n ↔ p * k < n := by
  rw [pageCount, Nat.lt_iff_add_one_le, Nat.le_div_iff_mul_le hk, Nat.add_mul]
  omega

theorem length_page : (page k p rows).length = min k (rows.length - p * k) := by
  simp [page]

theorem page_sublist : (page k p rows).Sublist rows := (List.take_sublist _ _).trans (List.drop_sublist _ _)

theorem page_ne_nil_iff (hk : 0 < k) : page k p rows ≠ [] ↔ p * k < rows.length := by
  rw [← List.length_pos_iff, length_page]
  omega

theorem exists_mem_page (hk : 0 < k) : (∃ p, x ∈ page k p rows) ↔ x ∈ rows := by
  constructor
  · intro ⟨p, hx⟩
    exact page_sublist.mem hx
  · intro hx
    obtain ⟨i, hi, rfl⟩ := List.mem_iff_getElem.mp hx
    have hdiv := Nat.div_add_mod' i k
    refine ⟨i / k, List.mem_take_iff_getElem.mpr ⟨i % k, ?_, ?_⟩⟩
    · rw [List.length_drop]
      have := Nat.mod_lt i hk
      omega
    · simp only [List.getElem_drop, hdiv]

theorem page_unique (hnodup : rows.Nodup) (h : ((List.range n).flatMap fun p => page k p (l p)).Perm rows)
    (hp : p < n) (hq : q < n) (hxp : x ∈ page k p (l p)) (hxq : x ∈ page k q (l q)) : p = q := by
  by_contra hne
  have hdisjoint := (List.nodup_flatMap.mp (h.nodup_iff.mpr hnodup)).2
  have hsymm : Std.Symm (Function.onFun List.Disjoint fun p => page k p (l p)) :=
    ⟨fun _ _ hd _ hy hx => hd hx hy⟩
  exact hdisjoint.forall (List.mem_range.mpr hp) (List.mem_range.mpr hq) hne hxp hxq

variable [DecidableEq α]

/-- The page of a row is the quotient of its position. -/
theorem mem_page (hk : 0 < k) (hnodup : rows.Nodup) :
    x ∈ page k p rows ↔ x ∈ rows ∧ rows.idxOf x / k = p := by
  rw [Nat.div_eq_iff hk]
  constructor
  · intro hx
    obtain ⟨i, hi, hget⟩ := List.mem_take_iff_getElem.mp hx
    rw [List.length_drop] at hi
    rw [List.getElem_drop] at hget
    have hidx := hnodup.idxOf_getElem (p * k + i) (by omega)
    rw [hget] at hidx
    exact ⟨page_sublist.mem hx, by omega⟩
  · intro ⟨hx, hidx⟩
    have hlt := List.idxOf_lt_length_of_mem hx
    refine List.mem_take_iff_getElem.mpr ⟨rows.idxOf x - p * k, by rw [List.length_drop]; omega, ?_⟩
    rw [List.getElem_drop]
    have hsum : p * k + (rows.idxOf x - p * k) = rows.idxOf x := by omega
    simp only [hsum, List.getElem_idxOf hlt]

/-! ### Pages of several lists with the same rows -/

theorem pages_perm (hk : 0 < k) (hnodup : rows.Nodup) (hperm : ∀ p, (l p).Perm rows) {place : α → Nat}
    (hplace : ∀ x ∈ rows, ∀ p, (l p).idxOf x / k = place x) :
    ((List.range (pageCount k rows.length)).flatMap fun p => page k p (l p)).Perm rows := by
  have hnodup' : ∀ p, (l p).Nodup := fun p => (hperm p).nodup_iff.mpr hnodup
  have hmem : ∀ p x, x ∈ page k p (l p) ↔ x ∈ rows ∧ place x = p := fun p x => by
    rw [mem_page hk (hnodup' p), (hperm p).mem_iff]
    exact and_congr_right fun hx => by rw [hplace x hx p]
  have hdisjoint : ((List.range (pageCount k rows.length)).flatMap fun p => page k p (l p)).Nodup := by
    refine List.nodup_flatMap.mpr ⟨fun p _ => (hnodup' p).sublist page_sublist, ?_⟩
    refine (List.nodup_range).imp fun {p q} hne x hp hq => hne ?_
    exact ((hmem p x).mp hp).2.symm.trans ((hmem q x).mp hq).2
  refine (List.perm_ext_iff_of_nodup hdisjoint hnodup).mpr fun x => ?_
  simp only [List.mem_flatMap, List.mem_range, hmem]
  constructor
  · intro ⟨p, _, hx, _⟩
    exact hx
  · intro hx
    refine ⟨place x, (lt_pageCount hk).mpr ?_, hx, rfl⟩
    have hlt := List.idxOf_lt_length_of_mem ((hperm 0).mem_iff.mpr hx)
    rw [(hperm 0).length_eq] at hlt
    rw [← hplace x hx 0]
    exact Nat.lt_of_le_of_lt (Nat.div_mul_le_self _ _) hlt

/-! ### Pages of several answers to one query -/

variable {le : α → α → Prop} [DecidableRel le] [Std.Total le] [IsTrans α le]

open OrderBy

/-- Rows with equal keys are on one page: the first and the last position of each are. -/
def TiesOnOnePage (le : α → α → Prop) [DecidableRel le] (k : Nat) (rows : List α) : Prop :=
  ∀ x ∈ rows, before le rows x / k = (notAfter le rows x - 1) / k

instance : Decidable (TiesOnOnePage le k rows) := inferInstanceAs (Decidable (∀ x ∈ _, _))

/-- **The pages make up the rows**, whatever the answers, exactly when rows with equal keys are on one page. -/
theorem pages_perm_iff (hk : 0 < k) (hnodup : rows.Nodup) :
    (∀ o : Nat → OrderBy le, ((List.range (pageCount k rows.length)).flatMap fun p =>
        page k p ((o p).sort rows)).Perm rows) ↔ TiesOnOnePage le k rows := by
  constructor
  · intro h x hx
    by_contra hne
    obtain ⟨first, hfirst⟩ : ∃ o : OrderBy le, (o.sort rows).idxOf x = before le rows x := exists_first hx
    obtain ⟨last, hlast⟩ : ∃ o : OrderBy le, (o.sort rows).idxOf x + 1 = notAfter le rows x :=
      exists_last hnodup hx
    have hposition : ∀ o : OrderBy le, (o.sort rows).idxOf x / k < pageCount k rows.length := fun o => by
      have hlt := List.idxOf_lt_length_of_mem (o.mem_sort.mpr hx)
      rw [o.length_sort] at hlt
      exact (lt_pageCount hk).mpr (Nat.lt_of_le_of_lt (Nat.div_mul_le_self _ _) hlt)
    have hmem : ∀ o : OrderBy le, x ∈ page k ((o.sort rows).idxOf x / k) (o.sort rows) := fun o =>
      (mem_page hk ((o.perm rows).nodup_iff.mpr hnodup)).mpr ⟨o.mem_sort.mpr hx, rfl⟩
    have hfirst' : (first.sort rows).idxOf x / k = before le rows x / k := by rw [hfirst]
    have hlast' : (last.sort rows).idxOf x / k = (notAfter le rows x - 1) / k := by
      rw [← hlast, Nat.add_sub_cancel]
    -- the page of the first position is answered in one way, the other pages in the other
    let o : Nat → OrderBy le := fun p => if p = before le rows x / k then first else last
    have hpage : x ∈ page k (before le rows x / k) ((o (before le rows x / k)).sort rows) := by
      simp only [o, if_pos]
      exact hfirst' ▸ hmem first
    have hpage' : x ∈ page k ((notAfter le rows x - 1) / k) ((o ((notAfter le rows x - 1) / k)).sort rows) := by
      simp only [o, if_neg (Ne.symm hne)]
      exact hlast' ▸ hmem last
    exact hne (page_unique hnodup (h o) (hfirst' ▸ hposition first) (hlast' ▸ hposition last) hpage hpage')
  · intro hties o
    refine pages_perm hk hnodup (fun p => (o p).perm rows) (?_ : ∀ x ∈ rows, ∀ p,
      ((o p).sort rows).idxOf x / k = before le rows x / k)
    intro x hx p
    have hge := before_le_idxOf (o p) hx
    have hlt := idxOf_lt_notAfter (o p) hx
    refine Nat.le_antisymm ?_ (Nat.div_le_div_right hge)
    exact (Nat.div_le_div_right (by omega)).trans (hties x hx).ge

end Relational
