import Fieldbus.Configuration
import Fieldbus.Document.Basic
import Fieldbus.Json.Parse
import Fieldbus.Json.Record
import Fieldbus.Log

/-! # The JSON form of configurations -/
namespace Fieldbus.Configuration

open Json

/-- The properties are written in the order of their names. -/
def toJson (config : Configuration) : Value :=
  .object
    [("subnet", .number (.ofByte config.address.subnet)),
      ("deviceId", .number (.ofByte config.address.device)), ("serialNr", .text config.serial),
      ("deviceType", config.model.toJson), ("properties", .object config.properties.toList)]

/-- A configuration of which some fields have been read. -/
structure Draft where
  subnet : Option UInt8 := none
  device : Option UInt8 := none
  serial : Option (Option String) := none
  model : Option Model := none
  properties : Option (Dictionary Value) := none

/-- The serial number and the properties may be left out. -/
def schema : Schema Draft :=
  { title := "struct RawDeviceConfiguration"
    fields :=
      [.slot "subnet" true (·.subnet) (fun d a => { d with subnet := some a }) byteReader,
        .slot "deviceId" true (·.device) (fun d a => { d with device := some a }) byteReader,
        .slot "serialNr" false (·.serial) (fun d a => { d with serial := some a })
          optionalStringReader,
        .slot "deviceType" true (·.model) (fun d a => { d with model := some a }) Model.reader,
        .slot "properties" false (·.properties) (fun d a => { d with properties := some a })
          dictionaryReader] }

/-- The serial number that was given, or the one that follows from the address if it is missing or
blank. -/
def givenSerial (address : Address) (given : Option String) : String :=
  (given.filter fun serial => !Serial.isBlank serial).getD (Serial.ofAddress address)

/-- The configuration of a draft. The schema lets no draft pass that lacks a required field. -/
def Draft.configuration (draft : Draft) : Configuration :=
  let address : Address := ⟨draft.subnet.getD 0, draft.device.getD 0⟩
  { address
    serial := givenSerial address draft.serial.join
    model := draft.model.getD .invalid
    properties := draft.properties.getD .empty }

/-- Reads a configuration. -/
def reader : Reader Configuration := fun depth c => do
  let (draft, c) ← schema.reader {} depth c
  return (draft.configuration, c)

/-- Reads a list of configurations. -/
def load (text : String) : Except ConfigurationError (List Configuration) :=
  (parse (listReader reader) text).mapError .unreadable

/-- What is logged once a list of configurations has been read. -/
def loadLog (text : String) : List LogRecord :=
  match load text with
  | .ok configs => [.debug "Loaded device configurations" [("count", toString configs.length)]]
  | .error _ => []

end Fieldbus.Configuration
