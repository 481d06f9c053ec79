import Mathlib.Data.String.Basic

/-!
# Texts of bounded length

What a column of the type `varchar(n)` holds, and what it makes of a text that is assigned to it: blanks beyond
the `n`-th character are cut off, and a text with anything else there is left as it is, so that it does not fit.
-/

namespace Varchar

variable {n : Nat} {s : String}

/-- The text has no character `NUL`. -/
def NulFree (s : String) : Prop := '\x00' ∉ s.toList

instance (s : String) : Decidable (NulFree s) := inferInstanceAs (Decidable (_ ∉ _))

def Fits (n : Nat) (s : String) : Prop := s.length ≤ n

instance (n : Nat) (s : String) : Decidable (Fits n s) := inferInstanceAs (Decidable (_ ≤ _))

def Blank (l : List Char) : Prop := ∀ c ∈ l, c = ' '

instance (l : List Char) : Decidable (Blank l) := List.decidableBAll _ l

/-- The assignment of a text to the column. -/
def assign (n : Nat) (s : String) : String :=
  if Fits n s then s
  else if Blank (s.toList.drop n) then String.ofList (s.toList.take n) else s

theorem assign_of_fits (h : Fits n s) : assign n s = s := if_pos h

theorem fits_assign_iff : Fits n (assign n s) ↔ Blank (s.toList.drop n) := by
  unfold assign
  split_ifs with hfits hblank
  · rw [List.drop_of_length_le (String.length_toList ▸ hfits)]
    exact iff_of_true hfits nofun
  · rw [Fits, String.length_ofList, List.length_take]
    exact iff_of_true (min_le_left _ _) hblank
  · exact iff_of_false hfits hblank

/-- What fits afterwards is a first part of the text. -/
theorem toList_assign (h : Fits n (assign n s)) : (assign n s).toList = s.toList.take n := by
  by_cases hfits : Fits n s
  · rw [assign_of_fits hfits, List.take_of_length_le (String.length_toList ▸ hfits)]
  · rw [assign, if_neg hfits, if_pos (fits_assign_iff.mp h), String.toList_ofList]

theorem assign_of_not_fits (h : ¬ Fits n (assign n s)) : assign n s = s := by
  have hfits : ¬ Fits n s := fun hfits => h (by rwa [assign_of_fits hfits])
  rw [assign, if_neg hfits, if_neg fun hblank => h (fits_assign_iff.mpr hblank)]

@[simp] theorem assign_assign : assign n (assign n s) = assign n s := by
  by_cases h : Fits n (assign n s)
  · exact assign_of_fits h
  · rw [assign_of_not_fits h, assign_of_not_fits h]

theorem assign_eq_empty_iff (hn : n ≠ 0) : assign n s = "" ↔ s = "" := by
  by_cases h : Fits n (assign n s)
  · rw [← String.toList_eq_nil_iff, toList_assign h, List.take_eq_nil_iff, or_iff_right hn,
      String.toList_eq_nil_iff]
  · rw [assign_of_not_fits h]

theorem assign_ofList_append {l blanks : List Char} (hlength : l.length = n) (hblank : Blank blanks) :
    assign n (String.ofList (l ++ blanks)) = String.ofList l := by
  by_cases h : blanks = []
  · rw [h, List.append_nil]
    exact assign_of_fits (String.length_ofList.trans hlength).le
  · have hlong : ¬ Fits n (String.ofList (l ++ blanks)) := by
      have hpos := List.length_pos_iff.mpr h
      rw [Fits, String.length_ofList, List.length_append]
      omega
    have hdrop : (String.ofList (l ++ blanks)).toList.drop n = blanks := by
      rw [String.toList_ofList, ← hlength, List.drop_left]
    rw [assign, if_neg hlong, if_pos (hdrop.symm ▸ hblank), String.toList_ofList, ← hlength, List.take_left]

theorem nulFree_assign_iff (h : Fits n (assign n s)) : NulFree (assign n s) ↔ NulFree s := by
  have hblank : '\x00' ≠ ' ' := by decide
  have hrest : '\x00' ∉ s.toList.drop n := fun hmem => hblank (fits_assign_iff.mp h _ hmem)
  unfold NulFree
  rw [toList_assign h]
  conv_rhs => rw [← List.take_append_drop n s.toList, List.mem_append]
  rw [or_iff_left hrest]

end Varchar
