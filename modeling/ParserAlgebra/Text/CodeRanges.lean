/-!
# Sets of code points

A property of characters is given as a list of ranges of code points. The ranges are written in
ascending order and do not touch, so the first range that does not end before a code point is the
only one that can hold it.
-/

namespace ParserAlgebra.Text

/-- Ascending ranges of code points, each with its first and its last member. -/
abbrev CodeRanges := List (Nat × Nat)

/-- Whether the first range that does not end before the code point begins at or before it. -/
def CodeRanges.contains (ranges : CodeRanges) (code : Nat) : Bool :=
  match ranges.find? (fun range => decide (code ≤ range.2)) with
  | some range => decide (range.1 ≤ code)
  | none => false

end ParserAlgebra.Text
