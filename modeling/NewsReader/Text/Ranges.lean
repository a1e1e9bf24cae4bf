/-!
# Ranges of characters

A property of characters is a list of ranges of code points, both ends included.
-/

namespace NewsReader.Text

/-- The character is in one of the ranges. -/
def inRanges (ranges : List (Nat × Nat)) (c : Char) : Bool :=
  ranges.any fun (lo, hi) => lo ≤ c.toNat && c.toNat ≤ hi

end NewsReader.Text
