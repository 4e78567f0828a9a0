import Fieldbus.Commissioning
import Fieldbus.Event

/-!
# The registry of devices

Devices are made from their configurations when they are first heard, and held under their
normalized serial numbers. A held device is never marked as updated: the mark is cleared as soon as
the change has been told.
-/
namespace Fieldbus

/-- Configurations in the order in which they are searched, and the devices heard so far. -/
structure Registry where
  configurations : List Configuration
  devices : Dictionary Device

/-- What became of a packet. -/
inductive Outcome where
  | changed
  | unchanged
  | unknownDevice
  deriving DecidableEq, Repr

def Outcome.label : Outcome → String
  | changed => "Changed"
  | unchanged => "Unchanged"
  | unknownDevice => "UnknownDevice"

/-- What a packet does to a registry, and what is told of it. -/
structure Dispatch where
  registry : Registry
  outcome : Outcome
  events : List Event
  diagnostic : Option Diagnostic

namespace Registry

/-- A registry that has heard no device yet. -/
def ofConfigurations (configurations : List Configuration) : Registry :=
  ⟨configurations, .empty⟩

/-! ## Queries -/

/-- The device that a serial number names, in whatever form it is given. -/
def device? (r : Registry) (serial : String) : Option Device :=
  r.devices.find? (Serial.normalize serial)

def size (r : Registry) : Nat :=
  r.devices.size

/-! ## Changes -/

/-- Replaces the configurations. Devices that are held stay as they are. -/
def withConfigurations (r : Registry) (configurations : List Configuration) : Registry :=
  { r with configurations }

/-- Drops a device, if it is held. -/
def remove (r : Registry) (serial : String) : Registry × List Event :=
  let key := Serial.normalize serial
  match r.devices.find? key with
  | some _ => ({ r with devices := r.devices.erase key }, [.removed key])
  | none => (r, [])

/-- The device under a normalized serial number, and whether it has just been made. -/
def resolve? (r : Registry) (key : String) : Option (Device × Bool) :=
  if key = "" then none
  else
    match r.devices.find? key with
    | some device => some (device, false)
    | none => (Device.forSerial? (some key) r.configurations).map fun device => (device, true)

/-- What is told when a device has just been made. -/
def announcement (key : String) (device : Device) (isNew : Bool) : List Event :=
  if isNew && device.isDiscoverable then [.added key device.model] else []

/-- Takes a packet into its device and tells of the change, if there is one. -/
def dispatch (r : Registry) (p : Packet) : Dispatch :=
  let key := Serial.normalize p.serial
  match r.resolve? key with
  | none =>
    { registry := r, outcome := .unknownDevice, events := [.unknown key p.address],
      diagnostic := none }
  | some (device, isNew) =>
    let (after, diagnostic) := device.decode p
    let announced := announcement key device isNew
    if after.updated then
      { registry := { r with devices := r.devices.insert key (after.setUpdated false) },
        outcome := .changed, events := announced ++ [.changed key after], diagnostic }
    else
      { registry := { r with devices := r.devices.insert key after },
        outcome := .unchanged, events := announced, diagnostic }

end Registry
end Fieldbus
