/-!
# Ranges of code points

A property of characters is kept as the ascending list of the ranges of code points that
have it; `inRanges` looks a code point up.
-/

namespace CrossRate.Text

/-- Whether a code point lies in one of the ranges of an ascending list of inclusive ranges. -/
def inRanges (n : Nat) : List (Nat × Nat) → Bool
  | [] => false
  | (first, last) :: rest => first ≤ n && (n ≤ last || inRanges n rest)

end CrossRate.Text
