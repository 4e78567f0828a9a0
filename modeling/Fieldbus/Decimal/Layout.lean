import Fieldbus.Decimal.Shortest

/-! # Where the point and the exponent of a number are written -/
namespace Fieldbus.Decimal

/-- The decisions a format makes on numbers with a fraction. The leading digit of a number stands
for a multiple of a power of ten; from `plainFrom` to `plainUpTo` of that power the number is
written without an exponent, and then always with a digit behind the point. -/
structure Layout where
  plainFrom : Int
  plainUpTo : Int
  point : Char
  exponentMark : Char
  exponentPlus : Bool

/-- Digits that start at `10 ^ lead`, written out in full. -/
def Layout.plain (layout : Layout) (digits : List Char) (lead : Int) : List Char :=
  if lead < 0 then
    '0' :: layout.point :: (List.replicate (-lead - 1).toNat '0' ++ digits)
  else
    let whole := lead.toNat + 1
    let padded := digits ++ List.replicate (whole + 1 - digits.length) '0'
    padded.take whole ++ layout.point :: padded.drop whole

/-- Digits that start at `10 ^ lead`, with the power of ten behind them. -/
def Layout.scientific (layout : Layout) (digits : List Char) (lead : Int) : List Char :=
  let mantissa :=
    match digits with
    | first :: second :: rest => first :: layout.point :: second :: rest
    | short => short
  let sign := if lead < 0 then ['-'] else if layout.exponentPlus then ['+'] else []
  mantissa ++ layout.exponentMark :: (sign ++ Nat.toDigits 10 lead.natAbs)

/-- A finite number in its shortest form. -/
def Layout.format (layout : Layout) (x : Binary64) : List Char :=
  let sign := if x.isNegative then ['-'] else []
  if x.isZero then
    sign ++ layout.plain ['0'] 0
  else
    let d := shortest x
    let digits := Nat.toDigits 10 d.digits
    let lead := d.exponent + digits.length - 1
    if layout.plainFrom ≤ lead ∧ lead ≤ layout.plainUpTo then
      sign ++ layout.plain digits lead
    else
      sign ++ layout.scientific digits lead

end Fieldbus.Decimal
