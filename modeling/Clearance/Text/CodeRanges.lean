/-
  Sets of code points, given as sorted ranges.

  * `inRanges table c` looks a code point up in a flat table, in which each range takes
    two places, its first and its last code point, and the ranges ascend;
  * `inRanges_cons_eq_false` says of the first range and of the others that a code point is in
    none of them.
-/

namespace Clearance.Text

/-- Whether a code point lies in one of the ranges of a sorted table.  The scan stops at
    the first range that begins above it. -/
def inRanges : List Nat → Nat → Bool
  | first :: last :: rest, c =>
    if c < first then false else if c ≤ last then true else inRanges rest c
  | _, _ => false

theorem inRanges_cons (first last : Nat) (rest : List Nat) (c : Nat) :
    inRanges (first :: last :: rest) c =
      (if c < first then false else if c ≤ last then true else inRanges rest c) := rfl

/-- What lies in no range lies below the first one, or above it and in none of the others. -/
theorem inRanges_cons_eq_false {first last : Nat} {rest : List Nat} {c : Nat} :
    inRanges (first :: last :: rest) c = false ↔
      c < first ∨ last < c ∧ inRanges rest c = false := by
  rw [inRanges_cons]
  by_cases h : c < first
  · simp [h]
  · by_cases h' : c ≤ last
    · simp [h, h', Nat.not_lt.2 h']
    · simp [h, h', Nat.lt_of_not_le h']

end Clearance.Text
