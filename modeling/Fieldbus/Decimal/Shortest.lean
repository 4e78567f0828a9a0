import Fieldbus.Decimal.Binary64

/-!
# The fewest digits that read back

Of the decimals that round to a given number, `shortest` picks one with the fewest digits, and of
those the nearest. All comparisons are exact, on natural numbers.
-/
namespace Fieldbus.Decimal

/-- The positive decimal `digits * 10 ^ exponent`. -/
structure Scaled where
  digits : Nat
  exponent : Int
  deriving DecidableEq, Repr

/-- The decimals that round to one positive number, in units of `2 ^ unit`: those from `low` to
`high`, the ends included when `closed`. -/
structure Neighbourhood where
  low : Nat
  value : Nat
  high : Nat
  unit : Int
  closed : Bool

/-- The reals that round to a positive number reach half way to its neighbours; below a power of
two the neighbour is only half as far. The ends round to the number when its significand is even. -/
def Binary64.neighbourhood (x : Binary64) : Neighbourhood :=
  let m := x.significand
  let narrow := x.fraction = 0 ∧ 1 < x.exponentField
  { low := if narrow then 4 * m - 1 else 4 * m - 2
    value := 4 * m
    high := 4 * m + 2
    unit := x.exponent - 2
    closed := m % 2 = 0 }

/-- The common multiples that put `u * 2 ^ unit` and `n * 10 ^ k` on one scale: `u` is multiplied
by the first, `n` by the second. -/
def scales (unit k : Int) : Nat × Nat :=
  (Nat.pow 2 unit.toNat * Nat.pow 10 (-k).toNat, Nat.pow 2 (-unit).toNat * Nat.pow 10 k.toNat)

namespace Neighbourhood

/-- Whether `n * 10 ^ k` rounds to the number. -/
def holds (h : Neighbourhood) (k : Int) (n : Nat) : Bool :=
  let (a, b) := scales h.unit k
  if h.closed then h.low * a ≤ n * b ∧ n * b ≤ h.high * a
  else h.low * a < n * b ∧ n * b < h.high * a

/-- The multiple of `10 ^ k` that is taken for the number, if the grid has one that rounds to it:
the nearer of the two beside it, of two equally near ones the even one. -/
def onGrid? (h : Neighbourhood) (k : Int) : Option Nat :=
  let (a, b) := scales h.unit k
  let below := h.value * a / b
  let above := below + 1
  match h.holds k below, h.holds k above with
  | false, false => none
  | true, false => some below
  | false, true => some above
  | true, true =>
    let down := h.value * a - below * b
    let up := above * b - h.value * a
    if down < up ∨ (down = up ∧ below % 2 = 0) then some below else some above

/-- The exponent of the leading digit. The product with `78913 / 2 ^ 18`, a little under the
logarithm of two, is exact or one too small. -/
def leading (h : Neighbourhood) : Int :=
  let guess := ((h.value.log2 : Int) + h.unit) * 78913 / 0x40000
  let (a, b) := scales h.unit (guess + 1)
  if b ≤ h.value * a then guess + 1 else guess

/-- The coarsest grid with a hit among those from `10 ^ k` on downwards. -/
def search (h : Neighbourhood) : Nat → Int → Scaled
  | 0, k => ⟨h.value * (scales h.unit k).1 / (scales h.unit k).2, k⟩
  | count + 1, k =>
    match h.onGrid? k with
    | some n => ⟨n, k⟩
    | none => h.search count (k - 1)

end Neighbourhood

/-- Moves the trailing zeros of the digits, at most `count` of them, into the exponent. -/
def Scaled.strip : Nat → Scaled → Scaled
  | 0, d => d
  | count + 1, d =>
    if d.digits % 10 = 0 then strip count ⟨d.digits / 10, d.exponent + 1⟩ else d

/-- The fewest digits for a positive number. Seventeen always suffice. -/
def shortest (x : Binary64) : Scaled :=
  let h := x.neighbourhood
  Scaled.strip 17 (h.search 17 h.leading)

end Fieldbus.Decimal
