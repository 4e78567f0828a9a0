import Fieldbus.Text.Blank
import Fieldbus.Text.Case

/-! # Serial numbers and bus addresses -/
namespace Fieldbus

/-- The place of a device on the bus. -/
structure Address where
  subnet : UInt8
  device : UInt8
  deriving DecidableEq, Repr

namespace Serial

/-- The serial number that stands in for a missing one: the subnet in thousands plus the device. -/
def ofAddress (address : Address) : String :=
  toString (address.subnet.toNat * 1000 + address.device.toNat)

/-- The form in which serial numbers are compared and stored: trimmed and in lower case. -/
def normalize (serial : String) : String :=
  String.ofList (Text.lower (Text.trim serial.toList))

/-- A serial number that says nothing. -/
def isBlank (serial : String) : Bool :=
  (Text.trim serial.toList).isEmpty

/-- Whether two serial numbers name the same device. -/
def agrees (a b : String) : Bool :=
  normalize a == normalize b

end Serial
end Fieldbus
