/-!
# Broadcasting to many receivers

Every receiver gets what is sent while it listens, in order and once. Only the latest items are
kept: a receiver that falls too far behind is told how many it has lost and goes on with the oldest
one kept. What is sent while nobody listens is gone.
-/
namespace Fieldbus

/-- Why no channel can be made. -/
inductive CapacityError where
  | zero
  | tooLarge
  deriving DecidableEq, Repr

def CapacityError.message : CapacityError → String
  | zero => "broadcast channel capacity cannot be zero"
  | tooLarge => "broadcast channel capacity exceeded `usize::MAX / 2`"

/-- A channel. `sent` counts the items ever sent to somebody; `kept` holds the last of them, at
most `capacity`. A receiver is known by its number; its position is the count of items that were
sent before the next one it gets, and it has none once it is dropped. -/
structure Broadcast (α : Type) where
  capacity : Nat
  senders : Nat
  sent : Nat
  kept : List α
  positions : List (Option Nat)

/-- What a receiver gets. -/
inductive Received (α : Type) where
  | item (value : α)
  /-- So many items are no longer kept. -/
  | lagged (missed : Nat)
  | empty
  /-- There is nothing left, and nobody is left to send. -/
  | closed
  deriving DecidableEq, Repr

/-- Whether nothing more can be got for now. -/
def Received.isLast {α : Type} : Received α → Bool
  | .empty | .closed => true
  | _ => false

namespace Broadcast

variable {α : Type}

/-- The greatest capacity that can be asked for. -/
def greatestCapacity : Nat := 0x7FFFFFFFFFFFFFFF

/-- The least power of two that is not below a number. -/
def roundUp (n : Nat) : Nat :=
  if n ≤ 1 then 1 else Nat.pow 2 ((n - 1).log2 + 1)

/-- A channel with one sender and no receiver. The capacity is rounded up to a power of two. -/
def create (capacity : Nat) : Except CapacityError (Broadcast α) :=
  if capacity = 0 then .error .zero
  else if greatestCapacity < capacity then .error .tooLarge
  else
    .ok { capacity := roundUp capacity, senders := 1, sent := 0, kept := [],
          positions := [] }

/-- The capacity of a channel nobody chose one for. -/
def defaultCapacity : Nat := 256

/-- A channel of the default capacity with one sender and no receiver. -/
def standard : Broadcast α :=
  { capacity := defaultCapacity, senders := 1, sent := 0, kept := [], positions := [] }

/-! ## Senders -/

/-- A further sender on the same channel. -/
def addSender (b : Broadcast α) : Broadcast α :=
  { b with senders := b.senders + 1 }

/-- Takes a sender away. After the last one, receivers get what is kept and then find the channel
closed. -/
def dropSender (b : Broadcast α) : Broadcast α :=
  { b with senders := b.senders - 1 }

/-- How many receivers listen. -/
def receiverCount (b : Broadcast α) : Nat :=
  b.positions.countP (·.isSome)

/-- Sends an item, unless nobody listens. -/
def send (b : Broadcast α) (a : α) : Broadcast α :=
  if b.receiverCount = 0 then b
  else
    let kept := b.kept ++ [a]
    { b with sent := b.sent + 1, kept := kept.drop (kept.length - b.capacity) }

/-- Sends an item and tells how many receivers it goes to. -/
def sendCounted (b : Broadcast α) (a : α) : Nat × Broadcast α :=
  (b.receiverCount, b.send a)

/-! ## Receivers -/

/-- A new receiver. It has the next free number and gets what is sent from now on. -/
def subscribe (b : Broadcast α) : Broadcast α :=
  { b with positions := b.positions ++ [some b.sent] }

/-- Where a receiver stands, if it has not been dropped. -/
def position? (b : Broadcast α) (receiver : Nat) : Option Nat :=
  b.positions[receiver]?.join

/-- How many items a receiver has not got yet, lost ones included. -/
def pending? (b : Broadcast α) (receiver : Nat) : Option Nat :=
  (b.position? receiver).map (b.sent - ·)

/-- Moves a receiver. -/
def moveTo (b : Broadcast α) (receiver position : Nat) : Broadcast α :=
  { b with positions := b.positions.set receiver (some position) }

/-- What a receiver gets next; `none` if it has been dropped. -/
def receive? (b : Broadcast α) (receiver : Nat) : Option (Received α × Broadcast α) :=
  (b.position? receiver).map fun position =>
    let oldest := b.sent - b.kept.length
    if position < oldest then (.lagged (oldest - position), b.moveTo receiver oldest)
    else
      match b.kept[position - oldest]? with
      | some a => (.item a, b.moveTo receiver (position + 1))
      | none => (if b.senders = 0 then .closed else .empty, b)

/-- Gets at most so many times. -/
def receiveUpTo (receiver : Nat) : Nat → Broadcast α → List (Received α) × Broadcast α
  | 0, b => ([], b)
  | count + 1, b =>
    match b.receive? receiver with
    | none => ([], b)
    | some (got, after) =>
      if got.isLast then ([got], after)
      else
        let (rest, after) := receiveUpTo receiver count after
        (got :: rest, after)

/-- All that a receiver can get for now, down to the answer that there is nothing more; `none` if
it has been dropped. It is told once what it has lost, and then gets at most what is kept. -/
def receiveAll? (b : Broadcast α) (receiver : Nat) : Option (List (Received α) × Broadcast α) :=
  (b.position? receiver).map fun _ => receiveUpTo receiver (b.kept.length + 2) b

/-- Takes a receiver away. Its number is not used again. -/
def dropReceiver (b : Broadcast α) (receiver : Nat) : Broadcast α :=
  { b with positions := b.positions.set receiver none }

end Broadcast
end Fieldbus
