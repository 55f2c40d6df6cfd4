/-!
# Sets of code points

A character class of the Unicode standard is a union of ranges of code points, and classes of
alternating letters are unions of arithmetic progressions. The tables of this folder are lists of
these; the two functions here say which code points such a list holds.
-/

set_option autoImplicit false

namespace HubRelay.Text

/-- Whether `code` lies in one of the inclusive ranges. -/
def inRanges (ranges : List (Nat × Nat)) (code : Nat) : Bool :=
  ranges.any fun range ↦ range.1 ≤ code && code ≤ range.2

/-- The code points `first`, `first + step`, … up to `last`. -/
structure Progression where
  first : Nat
  last : Nat
  step : Nat

/-- Whether `code` is a member of the progression. -/
def Progression.holds (p : Progression) (code : Nat) : Bool :=
  p.first ≤ code && code ≤ p.last && (code - p.first) % p.step == 0

/-- A code point is in a list of ranges when one of them encloses it. -/
theorem inRanges_iff {ranges : List (Nat × Nat)} {code : Nat} :
    inRanges ranges code = true ↔ ∃ range ∈ ranges, range.1 ≤ code ∧ code ≤ range.2 := by
  simp [inRanges]

end HubRelay.Text
