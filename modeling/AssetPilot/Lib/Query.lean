import AssetPilot.Lib.OrderBy
import AssetPilot.Lib.Table

/-!
# Queries over one table

A query that joins other tables to a main one, along keys, and filters: for each row of the main table it selects
one row or none. What it selects holds the row of the main table, so that the query answers with no row twice.
`Limited` says what the first `n` rows of an ordered answer are, and `head?_rows` what a query by key answers.
-/

namespace Relational

/-- What the query selects for a row of its main table, and the row of the main table in what it selects. -/
structure Query (α β : Type) where
  select : α → Option β
  main : β → α
  main_of_select : ∀ {a b}, select a = some b → main b = a

namespace Query

variable {α β κ : Type} [Keyed α κ] (q : Query α β) {t : Table α} {a : α} {b : β}

/-- The answer, in the order of the main table. -/
def rows (t : Table α) : List β := t.rows.filterMap q.select

theorem mem_rows : b ∈ q.rows t ↔ ∃ a ∈ t, q.select a = some b := List.mem_filterMap

theorem exists_mem_rows : (∃ b ∈ q.rows t, q.main b = a) ↔ a ∈ t ∧ q.select a ≠ none := by
  simp only [mem_rows]
  constructor
  · rintro ⟨b, ⟨a', ha', hselect⟩, rfl⟩
    rw [q.main_of_select hselect]
    exact ⟨ha', hselect ▸ Option.some_ne_none b⟩
  · rintro ⟨ha, hselect⟩
    obtain ⟨b, hb⟩ := Option.ne_none_iff_exists'.mp hselect
    exact ⟨b, ⟨a, ha, hb⟩, q.main_of_select hb⟩

theorem nodup_rows : (q.rows t).Nodup := by
  refine List.Nodup.filterMap (fun a a' b hb hb' => ?_) (List.Nodup.of_map _ t.nodup)
  exact (q.main_of_select hb).symm.trans (q.main_of_select hb')

theorem nodup_main_rows : ((q.rows t).map q.main).Nodup := by
  refine List.Nodup.map_on (fun b hb b' hb' heq => ?_) q.nodup_rows
  obtain ⟨a, -, ha⟩ := q.mem_rows.mp hb
  obtain ⟨a', -, ha'⟩ := q.mem_rows.mp hb'
  obtain rfl : a = a' := (q.main_of_select ha).symm.trans (heq.trans (q.main_of_select ha'))
  exact Option.some.inj (ha.symm.trans ha')

theorem length_rows {p : α → Prop} [DecidablePred p] (h : ∀ a ∈ t, q.select a ≠ none ↔ p a) :
    (q.rows t).length = t.rows.countP fun a => p a := by
  rw [rows, List.length_filterMap_eq_countP]
  refine List.countP_congr fun a ha => ?_
  rw [Option.isSome_iff_ne_none, decide_eq_true_eq]
  exact h a ha

/-- A row of the main table is in the answer once if the query selects it, and else not at all. -/
theorem count_main_rows [DecidableEq α] {p : Prop} [Decidable p] (ha : a ∈ t) (hp : q.select a ≠ none ↔ p) :
    ((q.rows t).map q.main).count a = if p then 1 else 0 := by
  rw [q.nodup_main_rows.count]
  exact if_congr ((List.mem_map.trans q.exists_mem_rows).trans ((and_iff_right ha).trans hp)) rfl rfl

/-! ### One row -/

theorem map_head?_rows {γ : Type} (f : β → γ) :
    (q.rows t).head?.map f = (t.rows.filterMap fun a => (q.select a).map f).head? := by
  rw [rows, ← List.head?_map, List.map_filterMap]

section
variable [DecidableEq κ] {k : κ}

theorem head?_rows (hkey : ∀ {a}, q.select a ≠ none → Keyed.key a = k) (ha : t.get? k = some a)
    (hb : q.select a = some b) : (q.rows t).head? = some b := by
  have hmem : b ∈ q.rows t := q.mem_rows.mpr ⟨a, Table.get?_mem ha, hb⟩
  obtain ⟨b', hb'⟩ := Option.ne_none_iff_exists'.mp fun hnone =>
    List.ne_nil_of_mem hmem (List.head?_eq_none_iff.mp hnone)
  obtain ⟨a', ha', hselect⟩ := q.mem_rows.mp (List.mem_of_mem_head? hb')
  have hstored : t.get? (Keyed.key a') = some a' := Table.mem_iff_get?.mp ha'
  rw [hkey (hselect ▸ Option.some_ne_none b'), ha] at hstored
  obtain rfl := Option.some.inj hstored
  rw [hb', ← hselect, hb]

theorem head?_rows_eq_none (hkey : ∀ {a}, q.select a ≠ none → Keyed.key a = k) (hk : t.get? k = none) :
    (q.rows t).head? = none := by
  refine List.head?_eq_none_iff.mpr (List.eq_nil_iff_forall_not_mem.mpr fun b hb => ?_)
  obtain ⟨a, ha, hselect⟩ := q.mem_rows.mp hb
  have hstored : t.get? (Keyed.key a) = some a := Table.mem_iff_get?.mp ha
  rw [hkey (hselect ▸ Option.some_ne_none b), hk] at hstored
  cases hstored

end

/-! ### The first rows of an ordered answer -/

/-- `rows` are `n` of the rows with `p`, or all of them, in order: none twice, and none that is left out comes
before one of them. -/
structure Limited (q : Query α β) (t : Table α) (p : α → Prop) [DecidablePred p] (le : β → β → Prop) (n : Nat)
    (rows : List β) : Prop where
  length : rows.length = min n (t.rows.countP fun a => p a)
  ordered : rows.Pairwise le
  once : (rows.map q.main).Nodup
  sound : ∀ b ∈ rows, q.main b ∈ t ∧ p (q.main b) ∧ q.select (q.main b) = some b
  first : ∀ b ∈ rows, ∀ a ∈ t, p a → a ∉ rows.map q.main → ∃ b', q.select a = some b' ∧ le b b'
  complete : (t.rows.countP fun a => p a) ≤ n → ∀ a ∈ t, p a → ∃ b ∈ rows, q.main b = a

variable {p : α → Prop} [DecidablePred p] {le : β → β → Prop}

/-- **What `ORDER BY` and `LIMIT` answer**, where no join drops a row with `p`. -/
theorem limited (h : ∀ a ∈ t, q.select a ≠ none ↔ p a) (o : OrderBy le) (n : Nat) :
    q.Limited t p le n ((o.sort (q.rows t)).take n) := by
  have hmem : ∀ b, b ∈ (o.sort (q.rows t)).take n → b ∈ q.rows t := fun b hb =>
    o.mem_sort.mp (List.mem_of_mem_take hb)
  have hselected : ∀ a ∈ t, p a → ∃ b ∈ q.rows t, q.select a = some b := fun a ha hp => by
    obtain ⟨b, hb⟩ := Option.ne_none_iff_exists'.mp ((h a ha).mpr hp)
    exact ⟨b, q.mem_rows.mpr ⟨a, ha, hb⟩, hb⟩
  refine ⟨?_, ?_, ?_, fun b hb => ?_, fun b hb a ha hp hnot => ?_, fun hn a ha hp => ?_⟩
  · rw [List.length_take, o.length_sort, q.length_rows h]
  · exact (o.sorted _).sublist (List.take_sublist _ _)
  · have hsub : (((o.sort (q.rows t)).take n).map q.main).Sublist ((o.sort (q.rows t)).map q.main) :=
      (List.take_sublist _ _).map _
    exact ((((o.perm _).map q.main).nodup_iff).mpr q.nodup_main_rows).sublist hsub
  · obtain ⟨a, ha, hselect⟩ := q.mem_rows.mp (hmem b hb)
    obtain rfl := q.main_of_select hselect
    exact ⟨ha, (h _ ha).mp (hselect ▸ Option.some_ne_none b), hselect⟩
  · obtain ⟨b', hb', hselect⟩ := hselected a ha hp
    refine ⟨b', hselect, o.le_of_mem_take hb hb' fun hshown => hnot ?_⟩
    exact List.mem_map.mpr ⟨b', hshown, q.main_of_select hselect⟩
  · obtain ⟨b, hb, hselect⟩ := hselected a ha hp
    rw [List.take_of_length_le (by rw [o.length_sort, q.length_rows h]; exact hn)]
    exact ⟨b, o.mem_sort.mpr hb, q.main_of_select hselect⟩

theorem limited_length (h : ∀ a ∈ t, q.select a ≠ none ↔ p a) (o : OrderBy le) :
    q.Limited t p le (t.rows.countP fun a => p a) (o.sort (q.rows t)) := by
  have key := q.limited h o (t.rows.countP fun a => p a)
  rwa [List.take_of_length_le (by rw [o.length_sort, q.length_rows h])] at key

end Query

end Relational
