/-!
# Binary floating point numbers

A number of 64 bits is kept as its bit pattern, so that equality of patterns and equality of
numbers stay apart: a NaN differs from itself, and the two zeros are equal.
-/
namespace Fieldbus.Decimal

/-- A floating point number: sign bit, 11 bits of exponent, 52 bits of fraction. -/
structure Binary64 where
  bits : UInt64
  deriving DecidableEq, Repr

namespace Binary64

/-! ## Fields -/

def isNegative (x : Binary64) : Bool :=
  0x8000000000000000 ≤ x.bits.toNat

/-- The exponent as it is stored: 0 for zeros and the smallest numbers, 2047 for what is no
finite number. -/
def exponentField (x : Binary64) : Nat :=
  x.bits.toNat / 0x10000000000000 % 0x800

def fraction (x : Binary64) : Nat :=
  x.bits.toNat % 0x10000000000000

def isFinite (x : Binary64) : Bool :=
  x.exponentField ≠ 2047

def isNaN (x : Binary64) : Bool :=
  x.exponentField = 2047 ∧ x.fraction ≠ 0

def isZero (x : Binary64) : Bool :=
  x.exponentField = 0 ∧ x.fraction = 0

/-- The significand `m` of the magnitude `m * 2 ^ q` of a finite number. -/
def significand (x : Binary64) : Nat :=
  if x.exponentField = 0 then x.fraction else 0x10000000000000 + x.fraction

/-- The exponent `q` of the magnitude `m * 2 ^ q` of a finite number. -/
def exponent (x : Binary64) : Int :=
  (Nat.max x.exponentField 1 : Int) - 1075

/-! ## Equality of numbers -/

/-- Whether two patterns stand for the same number. No number is the same as a NaN. -/
def same (x y : Binary64) : Bool :=
  !x.isNaN && !y.isNaN && (x.bits == y.bits || (x.isZero && y.isZero))

/-- Numbers are compared as numbers, not as patterns. -/
instance : BEq Binary64 := ⟨same⟩

/-! ## Building numbers -/

/-- The whole number that a byte holds. -/
def ofByte (b : UInt8) : Binary64 :=
  if b = 0 then
    ⟨0⟩
  else
    let top := b.toNat.log2
    ⟨UInt64.ofNat ((1023 + top) * 0x10000000000000
      + (b.toNat - Nat.pow 2 top) * Nat.pow 2 (52 - top))⟩

/-- The pattern of a machine number. -/
def ofFloat (x : Float) : Binary64 :=
  ⟨x.toBits⟩

end Binary64
end Fieldbus.Decimal
