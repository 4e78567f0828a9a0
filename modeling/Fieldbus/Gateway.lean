import Fieldbus.Broadcast
import Fieldbus.Registry.Log

/-!
# The gateway between the bus and its subscribers

A registry, the channel on which its events go out, and the place where its diagnostics go.
-/
namespace Fieldbus

/-- Diagnostics are logged or kept, in the order in which they come. -/
inductive Sink where
  | logging
  | collecting (entries : List Diagnostic)
  deriving DecidableEq, Repr

namespace Sink

def isLogging : Sink → Bool
  | logging => true
  | collecting _ => false

/-- Takes in what one packet gave rise to. -/
def record (sink : Sink) (diagnostic : Option Diagnostic) : Sink :=
  match sink with
  | logging => logging
  | collecting entries => collecting (entries ++ diagnostic.toList)

/-- What has been kept. -/
def entries : Sink → List Diagnostic
  | logging => []
  | collecting entries => entries

/-- Forgets what has been kept. -/
def drained : Sink → Sink
  | logging => logging
  | collecting _ => collecting []

end Sink

/-- What stands between the bus and the subscribers. -/
structure Gateway where
  registry : Registry
  channel : Broadcast Event
  sink : Sink

namespace Gateway

/-- A gateway over some configurations that logs its diagnostics. -/
def ofConfigurations (configurations : List Configuration) : Gateway :=
  ⟨.ofConfigurations configurations, .standard, .logging⟩

def withSink (g : Gateway) (sink : Sink) : Gateway :=
  { g with sink }

/-- The gateway with a new channel, and the old channel, which nobody sends on any more. -/
def withCapacity (g : Gateway) (capacity : Nat) :
    Except CapacityError (Gateway × Broadcast Event) := do
  let channel ← Broadcast.create capacity
  return ({ g with channel }, g.channel.dropSender)

/-- Sends events in order. -/
def publish (g : Gateway) (events : List Event) : Gateway :=
  { g with channel := events.foldl Broadcast.send g.channel }

/-- Takes a packet in: what becomes of it, and what is logged. -/
def handle (g : Gateway) (p : Packet) : Gateway × Outcome × List LogRecord :=
  let result := g.registry.dispatch p
  let after := { g with registry := result.registry, sink := g.sink.record result.diagnostic }
  (after.publish result.events, result.outcome, g.registry.dispatchLog p g.sink.isLogging)

/-- Drops a device: whether it was held. -/
def remove (g : Gateway) (serial : String) : Gateway × Bool :=
  let (registry, events) := g.registry.remove serial
  (({ g with registry } : Gateway).publish events, !events.isEmpty)

/-- Replaces the configurations. Devices that are held stay as they are. -/
def withConfigurations (g : Gateway) (configurations : List Configuration) : Gateway :=
  { g with registry := g.registry.withConfigurations configurations }

end Gateway
end Fieldbus
