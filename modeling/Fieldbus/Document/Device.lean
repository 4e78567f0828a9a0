import Fieldbus.Device
import Fieldbus.Document.Basic

/-! # The JSON form of devices -/
namespace Fieldbus

open Json

/-- The state of a relay bank, channel by channel. -/
def RelayBank.members (bank : RelayBank) : List (String × Value) :=
  [("channel_count", .number (.ofByte bank.size)),
    ("channels", .array (bank.channels.map (optionToJson Power.toJson)))]

/-- The state of a dimmer bank, channel by channel. -/
def DimmerBank.members (bank : DimmerBank) : List (String × Value) :=
  [("channels", .array (bank.channels.map (optionToJson Percent.toJson)))]

/-- The state of a thermostat. -/
def Thermostat.members (t : Thermostat) : List (String × Value) :=
  let temperature := optionToJson fun value => .number (.float value)
  [("channelNr", .number (.ofByte t.channel)),
    ("unit", optionToJson TemperatureUnit.toJson t.unit),
    ("mode", optionToJson Mode.toJson t.mode), ("timer", optionToJson TimerSlot.toJson t.timer),
    ("normalSetpoint", temperature t.normal), ("daySetpoint", temperature t.day),
    ("nightSetpoint", temperature t.night), ("awaySetpoint", temperature t.away),
    ("currentTemperature", temperature t.current)]

def RelayBank.toJson (bank : RelayBank) : Value :=
  .object bank.members

def DimmerBank.toJson (bank : DimmerBank) : Value :=
  .object bank.members

def Thermostat.toJson (t : Thermostat) : Value :=
  .object t.members

/-- The family stands before the members of the state. -/
def Channels.toJson : Channels → Value
  | relay bank => .object (("family", .text "relay") :: bank.members)
  | dimmer bank => .object (("family", .text "dimmer") :: bank.members)
  | floorHeating t => .object (("family", .text "floorHeating") :: t.members)
  | unsupported => .object [("family", .text "unsupported")]

/-- The serial number is written as it is stored, also where another one is shown. -/
def Device.toJson (d : Device) : Value :=
  .object
    [("subnet", .number (.ofByte d.address.subnet)),
      ("deviceId", .number (.ofByte d.address.device)), ("serialNr", .text d.serial),
      ("deviceType", d.model.toJson), ("updated", .boolean d.updated),
      ("state", d.channels.toJson)]

end Fieldbus
