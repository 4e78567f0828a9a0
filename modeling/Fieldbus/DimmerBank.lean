import Fieldbus.Diagnostic
import Fieldbus.InPlace
import Fieldbus.Percent
import Fieldbus.Tracked

/-! # Banks of four dimmers -/
namespace Fieldbus

/-- Four channels. A channel is unknown until a frame tells its level. -/
structure DimmerBank where
  first : Option Percent
  second : Option Percent
  third : Option Percent
  fourth : Option Percent
  deriving DecidableEq, Repr

/-- The number of one of the four channels. -/
inductive DimmerBank.Channel where
  | first
  | second
  | third
  | fourth
  deriving DecidableEq, Repr

namespace DimmerBank

/-! ## Channels -/

/-- Channels are counted from one. -/
def Channel.ofByte? (byte : UInt8) : Option Channel :=
  if byte = 1 then some first
  else if byte = 2 then some second
  else if byte = 3 then some third
  else if byte = 4 then some fourth
  else none

/-- A bank of which nothing is known. -/
def unknown : DimmerBank :=
  ⟨none, none, none, none⟩

def get (bank : DimmerBank) : Channel → Option Percent
  | .first => bank.first
  | .second => bank.second
  | .third => bank.third
  | .fourth => bank.fourth

def channels (bank : DimmerBank) : List (Option Percent) :=
  [bank.first, bank.second, bank.third, bank.fourth]

/-- The level of a channel given by its number. -/
def channel (bank : DimmerBank) (index : UInt8) : Option Percent :=
  (Channel.ofByte? index).bind bank.get

/-- Stores the level of one channel. -/
def store (bank : DimmerBank) (level : Percent) : Channel → Tracked DimmerBank
  | .first => (Tracked.put bank.first level).map fun slot => { bank with first := slot }
  | .second => (Tracked.put bank.second level).map fun slot => { bank with second := slot }
  | .third => (Tracked.put bank.third level).map fun slot => { bank with third := slot }
  | .fourth => (Tracked.put bank.fourth level).map fun slot => { bank with fourth := slot }

/-! ## Frames -/

/-- The level at a place of the payload. -/
def levelAt (data : List UInt8) (offset : Nat) (_ : offset < data.length := by omega) :
    Except FrameError Percent :=
  (Percent.ofByte data[offset]).mapError fun _ => .percent offset data[offset]

/-- A level report has the four levels behind its first byte. Nothing is stored unless all four
are in range; the first that is not is the one reported. -/
def decodeReport (bank : DimmerBank) (p : Packet) : Except FrameError (Tracked DimmerBank) := do
  let ⟨data, _⟩ ← p.payload 5
  let first ← levelAt data 1
  let second ← levelAt data 2
  let third ← levelAt data 3
  let fourth ← levelAt data 4
  return (bank.store first .first).andThen (·.store second .second)
    |>.andThen (·.store third .third)
    |>.andThen (·.store fourth .fourth)

/-- A control reply names its channel in the first byte and the level in the third. The channel is
looked at before the level. -/
def decodeControl (bank : DimmerBank) (p : Packet) : Except Refusal (Tracked DimmerBank) := do
  let ⟨data, _⟩ ← (p.payload 3).mapError .malformed
  match Channel.ofByte? data[0] with
  | none => throw (.unsupportedChannel p.command data[0])
  | some channel =>
    let level ← (levelAt data 2).mapError .malformed
    return bank.store level channel

/-- Takes a packet into the bank, or says why not. -/
def decode (bank : DimmerBank) (p : Packet) : Except Refusal (Tracked DimmerBank) :=
  match p.command with
  | .statusOfChannels | .levelOfChannels => (bank.decodeReport p).mapError .malformed
  | .singleChannelControl => bank.decodeControl p
  | .statusOfScene => .error .sceneBroadcast
  | command => .error (.unhandledCommand command)

/-! ## Writing in place -/

open InPlace

/-- All levels are read before the first of them is written. -/
def decodeReportInPlace (p : Packet) : InPlace DimmerBank Bool := do
  let ⟨data, _⟩ ← p.payload 5
  let first ← levelAt data 1
  let second ← levelAt data 2
  let third ← levelAt data 3
  let fourth ← levelAt data 4
  both (write (·.store first .first)) <|
    both (write (·.store second .second)) <|
    both (write (·.store third .third)) (write (·.store fourth .fourth))

def decodeControlInPlace (model : Model) (p : Packet) : InPlace DimmerBank Bool := do
  let ⟨data, _⟩ ← p.payload 3
  match Channel.ofByte? data[0] with
  | none => refuse model (.unsupportedChannel p.command data[0])
  | some channel =>
    let level ← levelAt data 2
    write (·.store level channel)

def decodeInPlace (model : Model) (p : Packet) : InPlace DimmerBank Bool :=
  match p.command with
  | .statusOfChannels | .levelOfChannels => decodeReportInPlace p
  | .singleChannelControl => decodeControlInPlace model p
  | .statusOfScene => refuse model .sceneBroadcast
  | command => refuse model (.unhandledCommand command)

end DimmerBank
end Fieldbus
