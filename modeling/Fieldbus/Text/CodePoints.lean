/-! # Sets of code points, given by closed ranges -/
namespace Fieldbus.Text

/-- The closed ranges of code points that make up a character property, in ascending order. -/
abbrev CodePoints := List (Nat × Nat)

/-- A character has the property when one of the ranges covers its code point. -/
def CodePoints.covers (ranges : CodePoints) (c : Char) : Bool :=
  ranges.any fun range => range.1 ≤ c.toNat && c.toNat ≤ range.2

end Fieldbus.Text
