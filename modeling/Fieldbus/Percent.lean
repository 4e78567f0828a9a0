import Fieldbus.ValueError

/-! # Dimming levels -/
namespace Fieldbus

/-- A level from 0 to 100. -/
structure Percent where
  value : UInt8
  value_le : value ≤ 100
  deriving DecidableEq, Repr

namespace Percent

/-- The level of a byte, unless it is above 100. -/
def ofByte (byte : UInt8) : Except ValueError Percent :=
  if h : byte ≤ 100 then .ok ⟨byte, h⟩ else .error (.outOfRange 0 100 byte.toNat)

def least : Percent := ⟨0, by decide⟩

def greatest : Percent := ⟨100, by decide⟩

def isOff (level : Percent) : Bool :=
  level.value = 0

def label (level : Percent) : String :=
  toString level.value.toNat ++ "%"

end Percent
end Fieldbus
