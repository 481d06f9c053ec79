import AssetPilot.Lib.Decimal
import AssetPilot.Models.Rows

/-!
# Dates as text

`date.fromisoformat(text)` for the texts that `str` gives, and that it is its inverse.
-/

namespace AssetPilot

namespace Date

/-- The date with these parts, if there is one. -/
def ofParts (year month day : Nat) : Option Date :=
  if h : (1 ≤ year ∧ year ≤ 9999) ∧ (1 ≤ month ∧ month ≤ 12) ∧ 1 ≤ day ∧ day ≤ daysInMonth year month then
    some ⟨year, month, day, h.1, h.2.1, h.2.2⟩
  else none

/-- `date.fromisoformat(text)` for a text of the form `YYYY-MM-DD`; `none` is the `ValueError`. -/
def fromIsoformat (text : String) : Option Date :=
  match text.toList with
  | [y₁, y₂, y₃, y₄, '-', m₁, m₂, '-', d₁, d₂] => do
    let year ← Decimal.read [y₁, y₂, y₃, y₄]
    let month ← Decimal.read [m₁, m₂]
    let day ← Decimal.read [d₁, d₂]
    ofParts year month day
  | _ => none

theorem ofParts_self (d : Date) : ofParts d.year d.month d.day = some d :=
  dif_pos ⟨d.year_range, d.month_range, d.day_range⟩

theorem daysInMonth_le (year month : Nat) : daysInMonth year month ≤ 31 := by
  unfold daysInMonth
  split_ifs <;> decide

theorem toList_str (d : Date) : d.str.toList =
    Decimal.padded 4 d.year ++ '-' :: (Decimal.padded 2 d.month ++ '-' :: Decimal.padded 2 d.day) := by
  simp [str, Decimal.padded, ToString.toString]

/-- **`date.fromisoformat(str(d)) == d`.** -/
theorem fromIsoformat_str (d : Date) : fromIsoformat d.str = some d := by
  have hday : d.day ≤ 31 := Nat.le_trans d.day_range.2 (daysInMonth_le _ _)
  have hmonth : d.month ≤ 12 := d.month_range.2
  have hyear : d.year ≤ 9999 := d.year_range.2
  obtain ⟨y₁, y₂, y₃, y₄, hy⟩ : ∃ a b c e, Decimal.padded 4 d.year = [a, b, c, e] :=
    List.length_eq_four.mp (Decimal.length_padded (by decide) (by omega))
  obtain ⟨m₁, m₂, hm⟩ : ∃ a b, Decimal.padded 2 d.month = [a, b] :=
    List.length_eq_two.mp (Decimal.length_padded (by decide) (by omega))
  obtain ⟨d₁, d₂, hd⟩ : ∃ a b, Decimal.padded 2 d.day = [a, b] :=
    List.length_eq_two.mp (Decimal.length_padded (by decide) (by omega))
  have htext : d.str.toList = [y₁, y₂, y₃, y₄, '-', m₁, m₂, '-', d₁, d₂] := by
    rw [toList_str, hy, hm, hd]
    rfl
  have hyear' : Decimal.read [y₁, y₂, y₃, y₄] = some d.year := hy ▸ Decimal.read_padded 4 d.year
  have hmonth' : Decimal.read [m₁, m₂] = some d.month := hm ▸ Decimal.read_padded 2 d.month
  have hday' : Decimal.read [d₁, d₂] = some d.day := hd ▸ Decimal.read_padded 2 d.day
  rw [fromIsoformat, htext]
  simp only [hyear', hmonth', hday', Option.bind_eq_bind, Option.bind_some, ofParts_self]

theorem str_injective : Function.Injective Date.str := by
  intro d e h
  have hparse := congrArg fromIsoformat h
  rwa [fromIsoformat_str, fromIsoformat_str, Option.some.injEq] at hparse

end Date

end AssetPilot
