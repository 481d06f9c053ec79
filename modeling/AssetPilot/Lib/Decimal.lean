import Mathlib.Algebra.Group.Nat.Defs

/-!
# Decimal numerals of a fixed width

`padded width n` writes `n` in decimal, with zeros before it up to the width, and `read` reads digits back.
-/

namespace Decimal

/-- The decimal digits of `n`, at least `width` of them. -/
def padded (width n : ℕ) : List Char := List.leftpad width '0' (Nat.toDigits 10 n)

/-- The number that the digits stand for, where all characters are digits. -/
def read (digits : List Char) : Option ℕ :=
  if digits.all Char.isDigit then some (Nat.ofDigitChars 10 digits 0) else none

variable {width n : ℕ}

theorem length_padded (hwidth : 0 < width) (h : n < 10 ^ width) : (padded width n).length = width := by
  have hdigits : (Nat.toDigits 10 n).length ≤ width := (Nat.length_toDigits_le_iff (by decide) hwidth).mpr h
  rw [padded, List.length_leftpad, Nat.max_eq_left hdigits]

theorem isDigit_of_mem_padded {c : Char} (h : c ∈ padded width n) : c.isDigit = true := by
  rcases List.mem_append.mp h with hzero | hdigit
  · rw [(List.mem_replicate.mp hzero).2]
    rfl
  · exact Nat.isDigit_of_mem_toDigits (by decide) (by decide) hdigit

/-- **What is written is read back**: the zeros count for nothing. -/
theorem read_padded (width n : ℕ) : read (padded width n) = some n := by
  have hzeros : Nat.ofDigitChars 10 (padded width n) 0 = n := by
    rw [padded, List.leftpad, Nat.ofDigitChars_append, Nat.ofDigitChars_replicate_zero, Nat.mul_zero,
      Nat.ofDigitChars_ten_toDigits]
  rw [read, if_pos (List.all_eq_true.mpr fun c hc => isDigit_of_mem_padded hc), hzeros]

end Decimal
