/-!
# Ranges of code points

Character properties are given as lists of inclusive ranges of code points.
-/

namespace GrammarFuzz.Text

/-- An inclusive range of code points. -/
abbrev PointRange := Nat × Nat

/-- Whether one of the ranges holds the code point. -/
def PointRange.cover (ranges : List PointRange) (point : Nat) : Bool :=
  ranges.any fun (first, last) => first ≤ point && point ≤ last

end GrammarFuzz.Text
