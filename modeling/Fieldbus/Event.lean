import Fieldbus.Document.Device

/-! # What subscribers are told -/
namespace Fieldbus

/-- Each event carries the normalized serial number of its device. -/
inductive Event where
  | added (serial : String) (model : Model)
  | removed (serial : String)
  | changed (serial : String) (device : Device)
  | unknown (serial : String) (address : Address)
  deriving DecidableEq, Repr

namespace Event

/-- The serial number that the event is about. -/
def serial : Event → String
  | added serial _ | removed serial | changed serial _ | unknown serial _ => serial

/-- Whether a device comes or goes. -/
def isLifecycle : Event → Bool
  | added .. | removed .. => true
  | _ => false

def isStateChange : Event → Bool
  | changed .. => true
  | _ => false

def isUnknown : Event → Bool
  | unknown .. => true
  | _ => false

/-- The device as it was right after the change. -/
def device? : Event → Option Device
  | changed _ device => some device
  | _ => none

def toJson : Event → Json.Value
  | added serial model =>
    .object [("event", .text "deviceAdded"), ("serialNr", .text serial),
      ("deviceType", model.toJson)]
  | removed serial => .object [("event", .text "deviceRemoved"), ("serialNr", .text serial)]
  | changed serial device =>
    .object [("event", .text "stateChanged"), ("serialNr", .text serial),
      ("device", device.toJson)]
  | unknown serial address =>
    .object [("event", .text "unknownDevice"), ("serialNr", .text serial),
      ("subnet", .number (.ofByte address.subnet)),
      ("deviceId", .number (.ofByte address.device))]

end Event
end Fieldbus
