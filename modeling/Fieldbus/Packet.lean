import Fieldbus.Command
import Fieldbus.Model
import Fieldbus.Serial

/-! # Packets received from the bus -/
namespace Fieldbus

/-- Why the payload of a packet cannot be read. -/
inductive FrameError where
  | shortPayload (command : Command) (required actual : Nat)
  | percent (offset : Nat) (value : UInt8)
  deriving DecidableEq, Repr

def FrameError.message : FrameError → String
  | shortPayload command required actual =>
    "payload for " ++ command.label ++ " needs " ++ toString required ++ " bytes, got "
      ++ toString actual
  | percent offset value =>
    "percent value " ++ toString value.toNat ++ " at offset " ++ toString offset ++ " exceeds 100"

/-- A packet as it comes off the bus: who sent it, what it is, and its payload. -/
structure Packet where
  source : Model
  command : Command
  address : Address
  serial : String
  data : List UInt8
  deriving DecidableEq, Repr

namespace Packet

/-- A packet whose serial number follows from its address. -/
def fromAddress (source : Model) (command : Command) (address : Address) (data : List UInt8) :
    Packet :=
  { source, command, address, serial := Serial.ofAddress address, data }

/-- The packet with another serial number, taken as it is. -/
def withSerial (p : Packet) (serial : String) : Packet :=
  { p with serial }

/-- The payload, once it is known to hold enough bytes. A longer one is not refused. -/
def payload (p : Packet) (required : Nat) :
    Except FrameError { data : List UInt8 // required ≤ data.length } :=
  if h : required ≤ p.data.length then .ok ⟨p.data, h⟩
  else .error (.shortPayload p.command required p.data.length)

end Packet
end Fieldbus
