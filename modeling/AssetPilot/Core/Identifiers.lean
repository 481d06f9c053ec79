import AssetPilot.Models.Rows
import Mathlib.Data.List.DropRight

/-!
# Identifiers as text

`uuid.UUID(text)`, which reads the subject of a token back, and its inverse `str`.
-/

namespace AssetPilot

open Hex

namespace UUID

/-- `text.replace("urn:", "")`. -/
def eraseUrn : List Char → List Char
  | 'u' :: 'r' :: 'n' :: ':' :: cs => eraseUrn cs
  | c :: cs => c :: eraseUrn cs
  | [] => []

/-- `text.replace("uuid:", "")`. -/
def eraseUuid : List Char → List Char
  | 'u' :: 'u' :: 'i' :: 'd' :: ':' :: cs => eraseUuid cs
  | c :: cs => c :: eraseUuid cs
  | [] => []

/-- A character that `strip` takes off. -/
def isBrace (c : Char) : Bool := c = '\x7b' ∨ c = '\x7d'

/-- The hexadecimal digits that `uuid.UUID` looks for in a text. -/
def hexOf (text : String) : List Char :=
  (((eraseUuid (eraseUrn text.toList)).dropWhile isBrace).rdropWhile isBrace).filter (· ≠ '-')

/-- `uuid.UUID(text)`; `none` is the `ValueError`. The sign, the prefix and the underscores that `int(_, 16)`
reads besides digits never stand in a subject. -/
def parse (text : String) : Option UUID :=
  if (hexOf text).length = 32 then (readHex (hexOf text)).map (BitVec.ofNat 128) else none

/-! ### What `str` writes is read back -/

theorem eraseUrn_of_notMem {cs : List Char} (h : 'u' ∉ cs) : eraseUrn cs = cs := by
  induction cs with
  | nil => rfl
  | cons c cs ih =>
    rw [eraseUrn, ih fun hmem => h (List.mem_cons_of_mem c hmem)]
    rintro _ rfl -
    exact h List.mem_cons_self

theorem eraseUuid_of_notMem {cs : List Char} (h : 'u' ∉ cs) : eraseUuid cs = cs := by
  induction cs with
  | nil => rfl
  | cons c cs ih =>
    rw [eraseUuid, ih fun hmem => h (List.mem_cons_of_mem c hmem)]
    rintro _ rfl -
    exact h List.mem_cons_self

theorem hexOf_of_plain {text : String} (hu : 'u' ∉ text.toList) (hbrace : ∀ c ∈ text.toList, isBrace c = false) :
    hexOf text = text.toList.filter (· ≠ '-') := by
  have hdrop : text.toList.dropWhile isBrace = text.toList := by
    rw [List.dropWhile_eq_self_iff]
    exact fun hpos => by simp [hbrace _ (List.getElem_mem hpos)]
  have hrdrop : text.toList.rdropWhile isBrace = text.toList := by
    rw [List.rdropWhile_eq_self_iff]
    exact fun hne => by simp [hbrace _ (List.getLast_mem hne)]
  rw [hexOf, eraseUrn_of_notMem hu, eraseUuid_of_notMem hu, hdrop, hrdrop]

theorem toList_str (u : UUID) : u.str.toList =
    ((hexNumeral 32 u.toNat).take 8).drop 0 ++ '-' :: (((hexNumeral 32 u.toNat).take 12).drop 8 ++
      '-' :: (((hexNumeral 32 u.toNat).take 16).drop 12 ++ '-' :: (((hexNumeral 32 u.toNat).take 20).drop 16 ++
        '-' :: ((hexNumeral 32 u.toNat).take 32).drop 20))) := by
  simp [str, ToString.toString]

theorem mem_str {u : UUID} {c : Char} (h : c ∈ u.str.toList) :
    c ∈ "0123456789abcdef".toList ∨ c = '-' := by
  have hgroup : ∀ i j, c ∈ ((hexNumeral 32 u.toNat).take j).drop i → c ∈ "0123456789abcdef".toList :=
    fun i j hc => mem_hexNumeral (List.mem_of_mem_take (List.mem_of_mem_drop hc))
  simp only [toList_str, List.mem_append, List.mem_cons] at h
  rcases h with h | h | h | h | h | h | h | h | h
  all_goals first | exact .inr h | exact .inl (hgroup _ _ h)

theorem drop_take_append {α : Type} (cs : List α) {i j k : Nat} (hij : i ≤ j) (hjk : j ≤ k) :
    (cs.take j).drop i ++ (cs.take k).drop j = (cs.take k).drop i := by
  have hshort : cs.take j = (cs.take k).take j := by rw [List.take_take, min_eq_left hjk]
  have hrest : (cs.take k).drop j = ((cs.take k).drop i).drop (j - i) := by
    rw [List.drop_drop, Nat.add_sub_cancel' hij]
  rw [hshort, List.drop_take, hrest, List.take_append_drop]

theorem digit_plain : ∀ c ∈ "0123456789abcdef".toList, c ≠ '-' ∧ isBrace c = false := by simp [isBrace]

theorem filter_str (u : UUID) : u.str.toList.filter (· ≠ '-') = hexNumeral 32 u.toNat := by
  have hgroup : ∀ i j, (((hexNumeral 32 u.toNat).take j).drop i).filter (· ≠ '-') =
      ((hexNumeral 32 u.toNat).take j).drop i := by
    intro i j
    refine List.filter_eq_self.mpr fun c hc => ?_
    have hdigit := mem_hexNumeral (List.mem_of_mem_take (List.mem_of_mem_drop hc))
    exact decide_eq_true (digit_plain c hdigit).1
  have hhyphen : ∀ cs : List Char, ('-' :: cs).filter (· ≠ '-') = cs.filter (· ≠ '-') := fun cs => rfl
  rw [toList_str]
  simp only [List.filter_append, hhyphen, hgroup]
  rw [drop_take_append _ (by decide) (by decide), drop_take_append _ (by decide) (by decide),
    drop_take_append _ (by decide) (by decide), drop_take_append _ (by decide) (by decide), List.drop_zero]
  exact List.take_of_length_le (length_hexNumeral 32 u.toNat).le

/-- **`uuid.UUID(str(u)) == u`.** -/
theorem parse_str (u : UUID) : parse u.str = some u := by
  have hplain : hexOf u.str = hexNumeral 32 u.toNat := by
    rw [hexOf_of_plain ?_ ?_, filter_str]
    · intro h
      rcases mem_str h with h | h <;> revert h <;> decide
    · intro c h
      rcases mem_str h with hdigit | rfl
      · exact (digit_plain c hdigit).2
      · rfl
  have hvalue : u.toNat % 16 ^ 32 = u.toNat := Nat.mod_eq_of_lt u.isLt
  rw [parse, hplain, length_hexNumeral, if_pos rfl, readHex_hexNumeral, hvalue, Option.map_some,
    BitVec.ofNat_toNat, BitVec.setWidth_eq]

theorem str_injective : Function.Injective UUID.str := by
  intro u v h
  have hparse := congrArg parse h
  rwa [parse_str, parse_str, Option.some.injEq] at hparse

end UUID

end AssetPilot
