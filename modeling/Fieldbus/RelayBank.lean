import Fieldbus.Diagnostic
import Fieldbus.InPlace
import Fieldbus.Power
import Fieldbus.Tracked

/-! # Banks of relays -/
namespace Fieldbus

/-- As many channels as the model has. A channel is unknown until a frame tells its state. -/
structure RelayBank where
  size : UInt8
  channels : List (Option Power)
  length_channels : channels.length = size.toNat
  deriving DecidableEq, Repr

namespace RelayBank

/-- A bank of which nothing is known. -/
def unknown (size : UInt8) : RelayBank :=
  ⟨size, List.replicate size.toNat none, List.length_replicate⟩

/-- The state of a channel. Channels are counted from one. -/
def channel (bank : RelayBank) (index : UInt8) : Option Power :=
  if index = 0 then none else bank.channels[index.toNat - 1]?.join

/-- The channels that are known to be on, in ascending order. -/
def channelsOn (bank : RelayBank) : List UInt8 :=
  ((List.range bank.size.toNat).map fun i => UInt8.ofNat (i + 1)).filter fun index =>
    bank.channel index = some .on

theorem length_putAll (slots : List (Option Power)) (values : List Power) :
    (Tracked.putAll slots values).state.length = slots.length := by
  induction slots generalizing values with
  | nil => cases values <;> rfl
  | cons slot slots ih =>
    cases values with
    | nil => rfl
    | cons value values => simp [Tracked.putAll, ih]

/-- Stores the states of the first channels. -/
def store (bank : RelayBank) (states : List Power) : Tracked RelayBank :=
  let stored := Tracked.putAll bank.channels states
  ⟨⟨bank.size, stored.state, (length_putAll _ _).trans bank.length_channels⟩, stored.changed⟩

/-- The bytes before the mask of a control reply. -/
def maskOffset : Nat := 4

/-- A level report has a level for each channel behind its first byte. -/
def readLevels (bank : RelayBank) (p : Packet) : Except FrameError (List Power) := do
  let ⟨data, _⟩ ← p.payload (bank.size.toNat + 1)
  return ((data.drop 1).take bank.size.toNat).map Power.ofLevel

/-- A control reply has a bit for each channel, eight to a byte, the lowest bit first. -/
def readMask (bank : RelayBank) (p : Packet) : Except FrameError (List Power) := do
  let ⟨data, h⟩ ← p.payload (maskOffset + (bank.size.toNat + 7) / 8)
  return List.ofFn fun i : Fin bank.size.toNat =>
    have : maskOffset + i.val / 8 < data.length := by omega
    Power.ofBool (data[maskOffset + i.val / 8].toNat.testBit (i.val % 8))

/-- Takes a packet into the bank, or says why not. -/
def decode (bank : RelayBank) (p : Packet) : Except Refusal (Tracked RelayBank) :=
  match p.command with
  | .statusOfChannels | .levelOfChannels =>
    (bank.readLevels p).mapError .malformed |>.map bank.store
  | .singleChannelControl => (bank.readMask p).mapError .malformed |>.map bank.store
  | .statusOfScene => .error .sceneBroadcast
  | command => .error (.unhandledCommand command)

/-! ## Writing in place -/

open InPlace

/-- Stores the state of one channel. Places are counted from zero. -/
def storeAt (place : Nat) (state : Power) (bank : RelayBank) : Tracked RelayBank :=
  (Tracked.put bank.channels[place]?.join state).map fun slot =>
    ⟨bank.size, bank.channels.set place slot, List.length_set.trans bank.length_channels⟩

/-- Stores states from a place on, one after the other, as long as there are channels for them. -/
def writeFrom (place : Nat) : List Power → InPlace RelayBank Bool
  | [] => return false
  | state :: states => do
    if place < (← read).channels.length then
      both (write (storeAt place state)) (writeFrom (place + 1) states)
    else
      return false

def decodeInPlace (model : Model) (p : Packet) : InPlace RelayBank Bool :=
  match p.command with
  | .statusOfChannels | .levelOfChannels => do
    let states ← (← read).readLevels p
    writeFrom 0 states
  | .singleChannelControl => do
    let states ← (← read).readMask p
    writeFrom 0 states
  | .statusOfScene => refuse model .sceneBroadcast
  | command => refuse model (.unhandledCommand command)

end RelayBank
end Fieldbus
