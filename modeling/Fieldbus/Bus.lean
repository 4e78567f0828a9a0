import Fieldbus.Broadcast

/-!
# The bus of events

A bus is a channel with the senders that share it. Whoever holds one of its senders or receivers can
use it, until the sender or receiver is dropped.
-/
namespace Fieldbus

/-- A channel and its senders, which are known by number as the receivers are; one that has been
dropped is `false`. -/
structure Bus (α : Type) where
  channel : Broadcast α
  senders : List Bool

namespace Bus

/-- What can be done with a sender. -/
inductive Use (α : Type) where
  | subscribe
  | clone
  | send (a : α)
  | sendCounted (a : α)
  | drop
  deriving DecidableEq, Repr

/-- What can be done to a bus. -/
inductive Operation (α : Type) where
  | use (sender : Nat) (use : Use α)
  | receive (receiver : Nat)
  | dropReceiver (receiver : Nat)
  deriving DecidableEq, Repr

/-- What comes of an operation. How many receivers an item went to is told if it was asked. -/
inductive Happening (α : Type) where
  | subscribed (receiver : Nat)
  | cloned (sender : Nat)
  | sent (a : α) (count : Option Nat)
  | senderDropped (sender : Nat)
  | received (receiver : Nat) (got : Received α)
  | receiverDropped (receiver : Nat)
  /-- There is no such sender or receiver any more. -/
  | refused
  deriving DecidableEq, Repr

variable {α : Type}

def IsLive (s : Bus α) (sender : Nat) : Prop :=
  s.senders[sender]? = some true

instance (s : Bus α) (sender : Nat) : Decidable (s.IsLive sender) :=
  inferInstanceAs (Decidable (_ = _))

/-- The bus of a new channel, with the sender that made it. -/
def ofChannel (channel : Broadcast α) : Bus α :=
  ⟨channel, [true]⟩

def use (s : Bus α) (sender : Nat) : Use α → Bus α × Happening α
  | .subscribe =>
    ({ s with channel := s.channel.subscribe }, .subscribed s.channel.positions.length)
  | .clone => (⟨s.channel.addSender, s.senders ++ [true]⟩, .cloned s.senders.length)
  | .send a => ({ s with channel := s.channel.send a }, .sent a none)
  | .sendCounted a =>
    let (count, channel) := s.channel.sendCounted a
    ({ s with channel }, .sent a (some count))
  | .drop => (⟨s.channel.dropSender, s.senders.set sender false⟩, .senderDropped sender)

/-- The bus after an operation, and what came of it. -/
def step (s : Bus α) : Operation α → Bus α × Happening α
  | .use sender use => if s.IsLive sender then s.use sender use else (s, .refused)
  | .receive receiver =>
    match s.channel.receive? receiver with
    | some (got, channel) => ({ s with channel }, .received receiver got)
    | none => (s, .refused)
  | .dropReceiver receiver =>
    match s.channel.position? receiver with
    | some _ => ({ s with channel := s.channel.dropReceiver receiver }, .receiverDropped receiver)
    | none => (s, .refused)

end Bus
end Fieldbus
