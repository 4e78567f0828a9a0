import Fieldbus.Device
import Fieldbus.Log

/-!
# Finding the configuration of a device that is heard

A serial number belongs to the first configuration that agrees with it. A blank one belongs to
none.
-/
namespace Fieldbus

namespace Configuration

/-- The first configuration whose serial number agrees with the given one. -/
def withSerial? (configs : List Configuration) (serial : String) : Option Configuration :=
  configs.find? fun config => Serial.agrees config.serial serial

end Configuration

namespace Device

/-- What is logged when the device of a configuration is made. -/
def creationLog (config : Configuration) : List LogRecord :=
  match config.model.family with
  | .unsupported =>
    [.debug "No codec for device type, creating unsupported device"
      [("device_type", config.model.tag), ("serial_nr", config.serial)]]
  | .floorHeating =>
    match config.channel? with
    | .ok _ => []
    | .error e =>
      [.warn "Ignoring floor heating channel property"
        [("serial_nr", config.serial), ("error", e.message)]]
  | _ => []

/-- A serial number to look for: normalized, and not empty. -/
def lookupKey? (serial : Option String) : Option String :=
  (serial.map Serial.normalize).filter (· ≠ "")

/-- The fresh device of the configuration that a serial number belongs to. -/
def forSerial? (serial : Option String) (configs : List Configuration) : Option Device :=
  (lookupKey? serial).bind fun key =>
    (Configuration.withSerial? configs key).map ofConfiguration

/-- What is logged when a device is looked for. -/
def lookupLog (serial : Option String) (configs : List Configuration) : List LogRecord :=
  match lookupKey? serial with
  | none =>
    [.debug "Device lookup without serial number" [("configs", toString configs.length)]]
  | some key =>
    match Configuration.withSerial? configs key with
    | some config =>
      .debug "Match found for serial number" [("serial_nr", key)] :: creationLog config
    | none =>
      [.debug "No configuration matches serial number"
        [("serial_nr", key), ("configs", toString configs.length)]]

/-- The device that a packet comes from, with the packet taken in. -/
def forPacket? (p : Packet) (configs : List Configuration) :
    Option (Device × Option Diagnostic) :=
  (forSerial? (some p.serial) configs).map (·.decode p)

/-- What is logged when the device of a packet is looked for. -/
def packetLookupLog (p : Packet) (configs : List Configuration) : List LogRecord :=
  lookupLog (some p.serial) configs ++
    match forSerial? (some p.serial) configs with
    | some _ => []
    | none =>
      [.warn "Cannot create device from received packet"
        [("serial_nr", p.serial), ("source_type", p.source.tag)]]

end Device
end Fieldbus
