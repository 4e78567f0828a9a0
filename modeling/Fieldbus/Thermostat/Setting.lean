import Fieldbus.ValueError

/-! # What can be set on a thermostat besides its setpoints -/
namespace Fieldbus.Thermostat

/-! ## Mode -/

/-- Which setpoint the thermostat follows. With `timer` the slot of its clock decides. -/
inductive Mode where
  | normal
  | day
  | night
  | away
  | timer
  deriving DecidableEq, Repr

def Mode.toByte : Mode → UInt8
  | normal => 1
  | day => 2
  | night => 3
  | away => 4
  | timer => 5

/-- The five modes have the numbers one to five. -/
def Mode.ofByte (byte : UInt8) : Except ValueError Mode :=
  if byte = 1 then .ok normal
  else if byte = 2 then .ok day
  else if byte = 3 then .ok night
  else if byte = 4 then .ok away
  else if byte = 5 then .ok timer
  else .error (.heatingMode byte)

def Mode.label : Mode → String
  | normal => "Normal"
  | day => "Day"
  | night => "Night"
  | away => "Away"
  | timer => "Timer"

/-! ## Unit -/

/-- The unit of all temperatures of a thermostat. -/
inductive TemperatureUnit where
  | celsius
  | fahrenheit
  deriving DecidableEq, Repr

/-- Every byte but one means degrees Celsius. -/
def TemperatureUnit.ofByte (byte : UInt8) : TemperatureUnit :=
  if byte = 1 then fahrenheit else celsius

def TemperatureUnit.symbol : TemperatureUnit → String
  | celsius => "C"
  | fahrenheit => "F"

/-! ## Slot of the clock -/

/-- The part of the day that the clock is in. -/
inductive TimerSlot where
  | day
  | night
  deriving DecidableEq, Repr

/-- Every byte but one means the day. -/
def TimerSlot.ofByte (byte : UInt8) : TimerSlot :=
  if byte = 1 then night else day

def TimerSlot.label : TimerSlot → String
  | day => "Day"
  | night => "Night"

end Fieldbus.Thermostat
