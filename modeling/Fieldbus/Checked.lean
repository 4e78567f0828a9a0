import Fieldbus.Device

/-!
# The codecs with every access looked up

Once more the codecs, but a byte of the payload, a stretch of it, a bit, a slot of a bank and the
difference of two bytes are looked up here without a word on whether they are there. At one that is
not, the computation is stuck: it has neither a value nor an error.
-/
namespace Fieldbus

/-- A computation that gets stuck at an access out of range. Otherwise it has a value or an error. -/
abbrev Checked (ε : Type) := ExceptT ε Option

/-! ## Accesses -/

namespace Access

/-- The byte at a place. -/
def byte? (data : List UInt8) (place : Nat) : Option UInt8 :=
  data[place]?

/-- The bytes from one place to another, both included. They may end right before they begin. -/
def slice? (data : List UInt8) (first last : Nat) : Option (List UInt8) :=
  if first ≤ last + 1 ∧ last + 1 ≤ data.length then some ((data.take (last + 1)).drop first)
  else none

/-- A bit of a byte, of which there are eight. -/
def bit? (byte : UInt8) (place : Nat) : Option Bool :=
  if place < 8 then some (byte.toNat.testBit place) else none

/-- The difference of two bytes, which is not below zero. -/
def minus? (a b : UInt8) : Option UInt8 :=
  if b ≤ a then some (a - b) else none

end Access

/-- The payload, once it is known to hold enough bytes. That it does is not passed on. -/
def Packet.require (p : Packet) (required : Nat) : Except FrameError (List UInt8) :=
  (p.payload required).map Subtype.val

/-! ## Codecs -/

open Access

namespace RelayBank

def readLevelsChecked (bank : RelayBank) (p : Packet) : Checked FrameError (List Power) := do
  let data ← p.require (bank.channels.length + 1)
  let levels ← slice? data 1 bank.channels.length
  return levels.map Power.ofLevel

def readMaskChecked (bank : RelayBank) (p : Packet) : Checked FrameError (List Power) := do
  let data ← p.require (maskOffset + (bank.channels.length + 7) / 8)
  (List.range bank.channels.length).mapM fun i => do
    let mask ← byte? data (maskOffset + i / 8)
    let bit ← bit? mask (i % 8)
    return Power.ofBool bit

def decodeChecked (bank : RelayBank) (p : Packet) : Checked Refusal (Tracked RelayBank) :=
  match p.command with
  | .statusOfChannels | .levelOfChannels =>
    bank.store <$> ExceptT.adapt .malformed (bank.readLevelsChecked p)
  | .singleChannelControl => bank.store <$> ExceptT.adapt .malformed (bank.readMaskChecked p)
  | .statusOfScene => throw .sceneBroadcast
  | command => throw (.unhandledCommand command)

end RelayBank

namespace DimmerBank

/-- The channel at a place. Places are counted from zero. -/
def Channel.at? (place : Nat) : Option Channel :=
  [first, second, third, fourth][place]?

def levelAtChecked (data : List UInt8) (offset : Nat) : Checked FrameError Percent := do
  let byte ← byte? data offset
  (Percent.ofByte byte).mapError fun _ => FrameError.percent offset byte

def decodeReportChecked (bank : DimmerBank) (p : Packet) :
    Checked FrameError (Tracked DimmerBank) := do
  let data ← p.require 5
  let first ← levelAtChecked data 1
  let second ← levelAtChecked data 2
  let third ← levelAtChecked data 3
  let fourth ← levelAtChecked data 4
  return (bank.store first .first).andThen (·.store second .second)
    |>.andThen (·.store third .third)
    |>.andThen (·.store fourth .fourth)

def decodeControlChecked (bank : DimmerBank) (p : Packet) :
    Checked Refusal (Tracked DimmerBank) := do
  let data ← (p.require 3).mapError Refusal.malformed
  let byte ← byte? data 0
  if 1 ≤ byte ∧ byte ≤ 4 then
    let level ← ExceptT.adapt Refusal.malformed (levelAtChecked data 2)
    let place ← minus? byte 1
    let channel ← Channel.at? place.toNat
    return bank.store level channel
  else
    throw (.unsupportedChannel p.command byte)

def decodeChecked (bank : DimmerBank) (p : Packet) : Checked Refusal (Tracked DimmerBank) :=
  match p.command with
  | .statusOfChannels | .levelOfChannels => ExceptT.adapt .malformed (bank.decodeReportChecked p)
  | .singleChannelControl => bank.decodeControlChecked p
  | .statusOfScene => throw .sceneBroadcast
  | command => throw (.unhandledCommand command)

end DimmerBank

namespace Thermostat

def decodeStatusChecked (t : Thermostat) (p : Packet) :
    Checked FrameError (Tracked Thermostat) := do
  let data ← p.require 9
  let unit ← byte? data 2
  let modeByte ← byte? data 3
  let mode := match Mode.ofByte modeByte with
    | .ok mode => setMode mode
    | .error _ => Tracked.start
  let timer ← byte? data 8
  let normal ← byte? data 4
  let day ← byte? data 5
  let night ← byte? data 6
  let away ← byte? data 7
  return (t.setUnit (.ofByte unit)).andThen mode
    |>.andThen (setTimer (.ofByte timer))
    |>.andThen (setSetpoint .normal (.ofByte normal))
    |>.andThen (setSetpoint .day (.ofByte day))
    |>.andThen (setSetpoint .night (.ofByte night))
    |>.andThen (setSetpoint .away (.ofByte away))

def decodeChecked (t : Thermostat) (p : Packet) : Checked Refusal (Tracked Thermostat) := do
  let data ← (p.require 1).mapError Refusal.malformed
  let byte ← byte? data 0
  if byte ≠ t.channel then
    throw (.channelMismatch t.channel byte)
  match p.command with
  | .floorHeatingStatus => ExceptT.adapt Refusal.malformed (t.decodeStatusChecked p)
  | command => throw (.unhandledCommand command)

end Thermostat

/-! ## Devices -/

def Channels.decodeChecked (model : Model) (p : Packet) :
    Channels → Checked Diagnostic (Tracked Channels)
  | relay bank => (·.map relay) <$> ExceptT.adapt (.refused model) (bank.decodeChecked p)
  | dimmer bank => (·.map dimmer) <$> ExceptT.adapt (.refused model) (bank.decodeChecked p)
  | floorHeating t => (·.map floorHeating) <$> ExceptT.adapt (.refused model) (t.decodeChecked p)
  | unsupported => throw (.unsupportedDevice p.command)

/-- Takes a packet into the device, unless its codec gets stuck. -/
def Device.decodeChecked (d : Device) (p : Packet) : Option (Device × Option Diagnostic) :=
  (d.channels.decodeChecked d.model p).run.map fun
    | .ok after =>
      ({ d with channels := after.state, updated := d.updated || after.changed }, none)
    | .error diagnostic => (d, some diagnostic)

end Fieldbus
