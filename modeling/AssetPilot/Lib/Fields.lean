import Mathlib.Data.Int.Notation
import Mathlib.Tactic.Common

/-!
# Texts of several fields

`join` writes a list of fields as one text, in which every character of a field is marked and every field
ends with a full stop; `split` reads the fields back, whatever characters they have.
-/

namespace Fields

/-- The marked characters of a field, and its end. -/
def close (field : List Char) : List Char := field.flatMap (fun c => ['=', c]) ++ ['.']

def join (fields : List (List Char)) : List Char := fields.flatMap close

/-- One more character in the first field. -/
def extend (c : Char) : List (List Char) → List (List Char)
  | [] => []
  | field :: fields => (c :: field) :: fields

def split : List Char → Option (List (List Char))
  | [] => some []
  | '.' :: cs => (split cs).map ([] :: ·)
  | '=' :: c :: cs => (split cs).map (extend c)
  | _ => none

theorem split_close (field cs : List Char) : split (close field ++ cs) = (split cs).map (field :: ·) := by
  induction field with
  | nil => rfl
  | cons c field ih =>
    have hhead : close (c :: field) ++ cs = '=' :: c :: (close field ++ cs) := by simp [close]
    rw [hhead, split, ih, Option.map_map]
    rfl

/-- **The fields are read back.** -/
theorem split_join (fields : List (List Char)) : split (join fields) = some fields := by
  induction fields with
  | nil => rfl
  | cons field fields ih =>
    rw [join, List.flatMap_cons, split_close, ← join, ih, Option.map_some]

/-- A whole number as a field: its sign and tally marks. -/
def tally (n : Int) : List Char := (if n < 0 then '-' else '+') :: List.replicate n.natAbs '1'

def readTally : List Char → Int
  | '-' :: cs => -cs.length
  | cs => cs.tail.length

theorem readTally_tally (n : Int) : readTally (tally n) = n := by
  unfold tally
  split_ifs with hneg
  · have hread : ∀ cs, readTally ('-' :: cs) = -cs.length := fun cs => rfl
    rw [hread, List.length_replicate]
    omega
  · have hread : ∀ cs, readTally ('+' :: cs) = cs.length := fun cs => rfl
    rw [hread, List.length_replicate]
    omega

end Fields
