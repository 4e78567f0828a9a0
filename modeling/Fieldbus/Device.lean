import Fieldbus.Configuration
import Fieldbus.DimmerBank
import Fieldbus.RelayBank
import Fieldbus.Thermostat.Basic

/-! # Devices and their state -/
namespace Fieldbus

/-- The state of the channels of a device, by its family. -/
inductive Channels where
  | relay (bank : RelayBank)
  | dimmer (bank : DimmerBank)
  | floorHeating (thermostat : Thermostat)
  | unsupported
  deriving DecidableEq, Repr

namespace Channels

/-- Whether two states hold equal values. With a NaN among them they do not. -/
def same : Channels → Channels → Bool
  | relay a, relay b => a = b
  | dimmer a, dimmer b => a = b
  | floorHeating a, floorHeating b => a.same b
  | unsupported, unsupported => true
  | _, _ => false

/-- Takes a packet for a device of the given model, or reports why not. -/
def decode (model : Model) (p : Packet) : Channels → Except Diagnostic (Tracked Channels)
  | relay bank => ((bank.decode p).mapError (.refused model)).map (·.map relay)
  | dimmer bank => ((bank.decode p).mapError (.refused model)).map (·.map dimmer)
  | floorHeating thermostat =>
    ((thermostat.decode p).mapError (.refused model)).map (·.map floorHeating)
  | unsupported => .error (.unsupportedDevice p.command)

open InPlace

/-- The codec of the family works on its own part. Without a codec that is recorded. -/
def decodeInPlace (model : Model) (p : Packet) : InPlace Channels Bool := do
  match ← read with
  | .relay bank => within bank (fun bank _ => .relay bank) (RelayBank.decodeInPlace model p)
  | .dimmer bank => within bank (fun bank _ => .dimmer bank) (DimmerBank.decodeInPlace model p)
  | .floorHeating t =>
    within t (fun t _ => .floorHeating t) (Thermostat.decodeInPlace model p)
  | .unsupported =>
    record (.unsupportedDevice p.command)
    return false

end Channels

/-- A device on the bus. `updated` tells that its state has changed since it was last cleared. -/
structure Device where
  address : Address
  serial : String
  model : Model
  updated : Bool
  channels : Channels
  deriving DecidableEq, Repr

namespace Device

/-! ## Making devices -/

/-- The channel of a thermostat whose configuration does not tell one. -/
def defaultChannel : UInt8 := 1

/-- The channel of a thermostat. A property that is no channel counts as none. -/
def heatingChannel (config : Configuration) : UInt8 :=
  match config.channel? with
  | .ok channel => channel.getD defaultChannel
  | .error _ => defaultChannel

/-- The device of a configuration, with nothing known of its channels. A model whose frames cannot
be read makes a device of no model. -/
def ofConfiguration (config : Configuration) : Device :=
  let make (model : Model) (channels : Channels) : Device :=
    { address := config.address, serial := config.serial, model, updated := false, channels }
  match config.model.family with
  | .relay size => make config.model (.relay (.unknown size))
  | .dimmer => make config.model (.dimmer .unknown)
  | .floorHeating => make config.model (.floorHeating (.unknown (heatingChannel config)))
  | .unsupported => make .invalid .unsupported

/-! ## Looking at devices -/

/-- Whether the frames of the device can be read, so that it is worth announcing. -/
def isDiscoverable (d : Device) : Bool :=
  match d.channels with
  | .unsupported => false
  | _ => true

/-- The serial number to show. A device whose frames cannot be read does not show its own. -/
def shownSerial (d : Device) : String :=
  if d.isDiscoverable then d.serial else "Unsupported device"

/-- The model and the serial number, with nothing in between. -/
def label (d : Device) : String :=
  d.model.tag ++ d.shownSerial

/-- Whether two devices hold equal values. With a NaN among them they do not. -/
def same (a b : Device) : Bool :=
  a.address = b.address && a.serial = b.serial && a.model = b.model && a.updated == b.updated
    && a.channels.same b.channels

/-! ## Frames -/

/-- Sets or clears the mark of a change. Nothing else clears it. -/
def setUpdated (d : Device) (updated : Bool) : Device :=
  { d with updated }

/-- Takes a packet into the device, or reports why the device stays as it was. -/
def decode (d : Device) (p : Packet) : Device × Option Diagnostic :=
  match d.channels.decode d.model p with
  | .ok after =>
    ({ d with channels := after.state, updated := d.updated || after.changed }, none)
  | .error diagnostic => (d, some diagnostic)

/-- Takes a packet into a device. An error of the codec is recorded, and a change marked. -/
def decodeInPlace (p : Packet) (target : Target Device) : Target Device :=
  let model := target.state.model
  let (result, left) :=
    (InPlace.within target.state.channels (fun channels d => { d with channels })
      (Channels.decodeInPlace model p)).on target
  match result with
  | .ok true => { left with state := left.state.setUpdated true }
  | .ok false => left
  | .error e => { left with records := left.records ++ [.refused model (.malformed e)] }

end Device
end Fieldbus
