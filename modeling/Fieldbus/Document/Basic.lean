import Fieldbus.Json.Variant
import Fieldbus.Command
import Fieldbus.Model
import Fieldbus.Percent
import Fieldbus.Power
import Fieldbus.Thermostat.Setting

/-! # The JSON form of simple values -/
namespace Fieldbus

open Json

/-! ## Writing -/

def Model.toJson (model : Model) : Value :=
  .text model.tag

def Power.toJson : Power → Value
  | off => .text "Off"
  | on => .text "On"

def Percent.toJson (level : Percent) : Value :=
  .number (.ofByte level.value)

def Thermostat.Mode.toJson (mode : Thermostat.Mode) : Value :=
  .text mode.label

def Thermostat.TemperatureUnit.toJson : Thermostat.TemperatureUnit → Value
  | celsius => .text "Celsius"
  | fahrenheit => .text "Fahrenheit"

def Thermostat.TimerSlot.toJson (slot : Thermostat.TimerSlot) : Value :=
  .text slot.label

/-- A command is written by its name; one without a name of its own carries its code. -/
def Command.toJson : Command → Value
  | statusOfChannels => .text "ResponseReadStatusOfChannels"
  | levelOfChannels => .text "ResponseReadCurrentLevelOfChannels"
  | singleChannelControl => .text "ResponseSingleChannelControl"
  | statusOfScene => .text "BroadcastStatusOfScene"
  | floorHeatingStatus => .text "ResponseReadFloorHeatingStatus"
  | other code => .object [("Other", .number (.ofCode code))]

/-- A value that may be unknown. -/
def optionToJson {α : Type} (toJson : α → Value) : Option α → Value
  | none => .null
  | some a => toJson a

/-! ## Reading -/

/-- Any text is the tag of a model, if only of the invalid one. -/
def Model.reader : Reader Model := fun depth c => do
  let (tag, c) ← stringReader depth c
  return (Model.ofTag tag, c)

def Power.reader : Reader Power :=
  Variants.reader [("Off", .nothing .off), ("On", .nothing .on)]

/-- A byte that is no level is refused, without a place of its own. -/
def Percent.reader : Reader Percent := fun depth c => do
  let (byte, c) ← byteReader depth c
  match Percent.ofByte byte with
  | .ok level => return (level, c)
  | .error e => c.failPending (.refused e.message)

def Thermostat.Mode.reader : Reader Thermostat.Mode :=
  Variants.reader
    [("Normal", .nothing .normal), ("Day", .nothing .day), ("Night", .nothing .night),
      ("Away", .nothing .away), ("Timer", .nothing .timer)]

def Thermostat.TemperatureUnit.reader : Reader Thermostat.TemperatureUnit :=
  Variants.reader [("Celsius", .nothing .celsius), ("Fahrenheit", .nothing .fahrenheit)]

def Thermostat.TimerSlot.reader : Reader Thermostat.TimerSlot :=
  Variants.reader [("Day", .nothing .day), ("Night", .nothing .night)]

def Command.reader : Reader Command :=
  Variants.reader
    [("ResponseReadStatusOfChannels", .nothing .statusOfChannels),
      ("ResponseReadCurrentLevelOfChannels", .nothing .levelOfChannels),
      ("ResponseSingleChannelControl", .nothing .singleChannelControl),
      ("BroadcastStatusOfScene", .nothing .statusOfScene),
      ("ResponseReadFloorHeatingStatus", .nothing .floorHeatingStatus),
      ("Other", .carried fun depth c => do
        let (code, c) ← codeReader depth c
        return (.other code, c))]

end Fieldbus
