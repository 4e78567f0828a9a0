import Fieldbus.Decimal.Binary64

/-! # JSON values -/
namespace Fieldbus.Json

open Decimal (Binary64)

/-- A number is a whole one that fits 64 bits, signed if negative and unsigned otherwise, or a
floating point number. The two kinds are told apart even where their values agree. -/
inductive Number where
  | integer (value : Int) (inRange : -0x8000000000000000 ≤ value ∧ value < 0x10000000000000000)
  | float (value : Binary64)
  deriving DecidableEq

/-- The members of an object stand in the order in which they are written. In a value that was read
this is the order of their names, and no name stands twice. -/
inductive Value where
  | null
  | boolean (value : Bool)
  | number (value : Number)
  | text (value : String)
  | array (items : List Value)
  | object (members : List (String × Value))

namespace Number

/-- A number that is known to be small. -/
def ofByte (byte : UInt8) : Number :=
  .integer byte.toNat (by have := byte.toNat_lt; omega)

def ofCode (code : UInt16) : Number :=
  .integer code.toNat (by have := code.toNat_lt; omega)

/-- The byte that an integer is equal to. A floating point number is no byte, whatever its
value. -/
def toByte? : Number → Option UInt8
  | integer value _ => if 0 ≤ value ∧ value < 256 then some (UInt8.ofNat value.toNat) else none
  | float _ => none

end Number

end Fieldbus.Json
