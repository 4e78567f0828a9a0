import Fieldbus.Decimal.Binary64
import Fieldbus.Diagnostic
import Fieldbus.InPlace
import Fieldbus.Thermostat.Setting
import Fieldbus.Tracked

/-!
# Floor heating thermostats

The current temperature is never sent: it is the setpoint that the thermostat follows, taken over
whenever that setpoint is stored.
-/
namespace Fieldbus

open Decimal (Binary64)

/-- One channel of a floor heating controller. A field is unknown until it is set. -/
structure Thermostat where
  channel : UInt8
  unit : Option Thermostat.TemperatureUnit
  mode : Option Thermostat.Mode
  timer : Option Thermostat.TimerSlot
  normal : Option Binary64
  day : Option Binary64
  night : Option Binary64
  away : Option Binary64
  current : Option Binary64
  deriving DecidableEq, Repr

namespace Thermostat

/-- A thermostat of which only the channel is known. -/
def unknown (channel : UInt8) : Thermostat :=
  { channel, unit := none, mode := none, timer := none, normal := none, day := none,
    night := none, away := none, current := none }

/-- Whether two thermostats hold equal values. With a NaN among them they do not. -/
def same (a b : Thermostat) : Bool :=
  a.channel == b.channel && a.unit == b.unit && a.mode == b.mode && a.timer == b.timer
    && a.normal == b.normal && a.day == b.day && a.night == b.night && a.away == b.away
    && a.current == b.current

/-! ## Setpoints -/

/-- The four temperatures that can be set. -/
inductive Setpoint where
  | normal
  | day
  | night
  | away
  deriving DecidableEq, Repr

/-- The setpoint that a mode and a slot of the clock select. -/
def Setpoint.selected? : Option Mode → Option TimerSlot → Option Setpoint
  | some .normal, _ => some normal
  | some .day, _ => some day
  | some .night, _ => some night
  | some .away, _ => some away
  | some .timer, some .day => some day
  | some .timer, some .night => some night
  | some .timer, none => none
  | none, _ => none

/-- The setpoint that the thermostat follows. -/
def active? (t : Thermostat) : Option Setpoint :=
  Setpoint.selected? t.mode t.timer

def get (t : Thermostat) : Setpoint → Option Binary64
  | .normal => t.normal
  | .day => t.day
  | .night => t.night
  | .away => t.away

/-! ## Setters -/

def setUnit (unit : TemperatureUnit) (t : Thermostat) : Tracked Thermostat :=
  (Tracked.put t.unit unit).map fun slot => { t with unit := slot }

def setMode (mode : Mode) (t : Thermostat) : Tracked Thermostat :=
  (Tracked.put t.mode mode).map fun slot => { t with mode := slot }

def setTimer (timer : TimerSlot) (t : Thermostat) : Tracked Thermostat :=
  (Tracked.put t.timer timer).map fun slot => { t with timer := slot }

/-- Stores a temperature at its own place only. -/
def putSetpoint (which : Setpoint) (value : Binary64) (t : Thermostat) : Tracked Thermostat :=
  (Tracked.put (t.get which) value).map fun slot =>
    match which with
    | .normal => { t with normal := slot }
    | .day => { t with day := slot }
    | .night => { t with night := slot }
    | .away => { t with away := slot }

/-- Stores the current temperature. -/
def putCurrent (value : Binary64) (t : Thermostat) : Tracked Thermostat :=
  (Tracked.put t.current value).map fun slot => { t with current := slot }

/-- Stores a temperature, also as the current one when the thermostat follows it. -/
def setSetpoint (which : Setpoint) (value : Binary64) (t : Thermostat) : Tracked Thermostat :=
  (t.putSetpoint which value).andThen fun u =>
    if u.active? = some which then u.putCurrent value else Tracked.start u

/-! ## Frames -/

/-- A status reply has the unit, the mode, the four setpoints and the slot of the clock from its
third byte on. A mode byte that names no mode keeps the mode. The setpoints come last, because
which one is followed depends on the mode and the slot. -/
def decodeStatus (t : Thermostat) (p : Packet) : Except FrameError (Tracked Thermostat) := do
  let ⟨data, _⟩ ← p.payload 9
  let mode := match Mode.ofByte data[3] with
    | .ok mode => setMode mode
    | .error _ => Tracked.start
  return (t.setUnit (.ofByte data[2])).andThen mode
    |>.andThen (setTimer (.ofByte data[8]))
    |>.andThen (setSetpoint .normal (.ofByte data[4]))
    |>.andThen (setSetpoint .day (.ofByte data[5]))
    |>.andThen (setSetpoint .night (.ofByte data[6]))
    |>.andThen (setSetpoint .away (.ofByte data[7]))

/-- Takes a packet into the thermostat, or says why not. Frames of other channels are refused
before their command is looked at. -/
def decode (t : Thermostat) (p : Packet) : Except Refusal (Tracked Thermostat) := do
  let ⟨data, _⟩ ← (p.payload 1).mapError .malformed
  if data[0] ≠ t.channel then
    throw (.channelMismatch t.channel data[0])
  match p.command with
  | .floorHeatingStatus => (t.decodeStatus p).mapError .malformed
  | command => throw (.unhandledCommand command)

/-! ## Writing in place -/

open InPlace

/-- Stores a temperature at its own place, and after that as the current one when the thermostat
follows it. -/
def writeSetpoint (which : Setpoint) (value : Binary64) : InPlace Thermostat Bool :=
  both (write (putSetpoint which value)) do
    if (← read).active? = some which then write (putCurrent value) else return false

def decodeStatusInPlace (p : Packet) : InPlace Thermostat Bool := do
  let ⟨data, _⟩ ← p.payload 9
  let mode := match Mode.ofByte data[3] with
    | .ok mode => write (setMode mode)
    | .error _ => pure false
  both (write (setUnit (.ofByte data[2]))) <|
    both mode <|
    both (write (setTimer (.ofByte data[8]))) <|
    both (writeSetpoint .normal (.ofByte data[4])) <|
    both (writeSetpoint .day (.ofByte data[5])) <|
    both (writeSetpoint .night (.ofByte data[6])) (writeSetpoint .away (.ofByte data[7]))

def decodeInPlace (model : Model) (p : Packet) : InPlace Thermostat Bool := do
  let ⟨data, _⟩ ← p.payload 1
  let channel := (← read).channel
  if data[0] ≠ channel then
    refuse model (.channelMismatch channel data[0])
  else
    match p.command with
    | .floorHeatingStatus => decodeStatusInPlace p
    | command => refuse model (.unhandledCommand command)

end Thermostat
end Fieldbus
