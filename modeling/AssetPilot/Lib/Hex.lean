import Mathlib.Algebra.Group.Nat.Defs

/-!
# Hexadecimal numerals

`hexNumeral k n` writes the last `k` hexadecimal digits of `n`, and `readHex` reads a numeral back, in either
case of its letters. The digits that are written are read as `n` modulo `16 ^ k`.
-/

namespace Hex

/-- The last `k` hexadecimal digits of `n`. -/
def hexNumeral : Nat → Nat → List Char
  | 0, _ => []
  | k + 1, n => hexNumeral k (n / 16) ++ [Nat.digitChar (n % 16)]

/-- The value of a hexadecimal digit. -/
def hexValue (c : Char) : Option Nat :=
  if '0' ≤ c ∧ c ≤ '9' then some (c.toNat - '0'.toNat)
  else if 'a' ≤ c ∧ c ≤ 'f' then some (c.toNat - 'a'.toNat + 10)
  else if 'A' ≤ c ∧ c ≤ 'F' then some (c.toNat - 'A'.toNat + 10)
  else none

/-- The number after `n` that the digits are read as. -/
def readHexFrom (n : Nat) : List Char → Option Nat
  | [] => some n
  | c :: cs => (hexValue c).bind fun d => readHexFrom (16 * n + d) cs

def readHex (digits : List Char) : Option Nat := readHexFrom 0 digits

theorem forall_digit {P : Nat → Prop} [DecidablePred P] (h : ∀ d ∈ List.range 16, P d) {n : Nat} (hn : n < 16) :
    P n :=
  h n (List.mem_range.mpr hn)

theorem hexValue_digitChar {n : Nat} (hn : n < 16) : hexValue (Nat.digitChar n) = some n :=
  forall_digit (P := fun d => hexValue (Nat.digitChar d) = some d) (by decide) hn

@[simp] theorem length_hexNumeral (k n : Nat) : (hexNumeral k n).length = k := by
  induction k generalizing n with
  | zero => rfl
  | succ k ih => rw [hexNumeral, List.length_append, ih, List.length_singleton]

theorem readHexFrom_append (n : Nat) (cs ds : List Char) :
    readHexFrom n (cs ++ ds) = (readHexFrom n cs).bind fun m => readHexFrom m ds := by
  induction cs generalizing n with
  | nil => rfl
  | cons c cs ih =>
    rw [List.cons_append, readHexFrom, readHexFrom]
    cases hexValue c with
    | none => rfl
    | some d => exact ih _

/-- **What is written is read back.** -/
theorem readHex_hexNumeral (k n : Nat) : readHex (hexNumeral k n) = some (n % 16 ^ k) := by
  unfold readHex
  induction k generalizing n with
  | zero => exact congrArg some (Nat.mod_one n).symm
  | succ k ih =>
    have hdigit : hexValue (Nat.digitChar (n % 16)) = some (n % 16) :=
      hexValue_digitChar (Nat.mod_lt n (by decide))
    have hvalue : 16 * (n / 16 % 16 ^ k) + n % 16 = n % 16 ^ (k + 1) := by
      rw [Nat.pow_succ', Nat.mod_mul]
      omega
    rw [hexNumeral, readHexFrom_append, ih, Option.bind_some, readHexFrom, hdigit, Option.bind_some,
      readHexFrom, hvalue]

theorem mem_hexNumeral {k n : Nat} {c : Char} (h : c ∈ hexNumeral k n) : c ∈ "0123456789abcdef".toList := by
  induction k generalizing n with
  | zero => cases h
  | succ k ih =>
    rcases List.mem_append.mp h with h | h
    · exact ih h
    · obtain rfl := List.mem_singleton.mp h
      exact forall_digit (P := fun d => Nat.digitChar d ∈ "0123456789abcdef".toList) (by decide)
        (Nat.mod_lt n (by decide))

end Hex
