import Fieldbus.Decimal.Byte
import Fieldbus.Dictionary
import Fieldbus.Json.Fault
import Fieldbus.Model
import Fieldbus.Serial

/-! # What is known of a device before it is heard -/
namespace Fieldbus

/-- Why configurations cannot be used. -/
inductive ConfigurationError where
  | unreadable (error : Json.ReadError)
  /-- A property with a value, given as JSON text, that it cannot have. -/
  | property (name value : String)

def ConfigurationError.message : ConfigurationError → String
  | unreadable error => "JSON parse error: " ++ error.message
  | property name value =>
    "invalid value " ++ String.ofList (Text.quoted value.toList) ++ " for property " ++ name

/-- The address, serial number and model of a device, and what else its model needs to be told. -/
structure Configuration where
  address : Address
  serial : String
  model : Model
  properties : Dictionary Json.Value

namespace Configuration

/-- A configuration without properties whose serial number follows from its address. -/
def fromAddress (address : Address) (model : Model) : Configuration :=
  { address, serial := Serial.ofAddress address, model, properties := .empty }

/-- The configuration with another serial number, taken as it is. -/
def withSerial (config : Configuration) (serial : String) : Configuration :=
  { config with serial }

/-- The configuration with one more property, or with another value for one that it has. -/
def withProperty (config : Configuration) (name : String) (value : Json.Value) : Configuration :=
  { config with properties := config.properties.insert name value }

/-- The value of a property. -/
def property? (config : Configuration) (name : String) : Option Json.Value :=
  config.properties.find? name

/-- The property that tells the channel of a floor heating thermostat. -/
def channelProperty : String := "channelNr"

/-- A byte given as an integer, or as a text with nothing but white space around it. -/
def byteOf? : Json.Value → Option UInt8
  | .number n => n.toByte?
  | .text s => Decimal.readByte? (Text.trim s.toList)
  | _ => none

/-- The channel of a floor heating thermostat, if one is given. -/
def channel? (config : Configuration) : Except ConfigurationError (Option UInt8) :=
  match config.property? channelProperty with
  | none => .ok none
  | some value =>
    match byteOf? value with
    | some channel => .ok (some channel)
    | none => .error (.property channelProperty value.toText)

end Configuration
end Fieldbus
