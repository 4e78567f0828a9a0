import Fieldbus.Registry.Basic

/-! # What the registry logs -/
namespace Fieldbus

/-- The record of a diagnostic that is not collected. -/
def Diagnostic.record (d : Diagnostic) : LogRecord :=
  if d.isMalformed then .warn "Rejected bus frame" [("diagnostic", d.message)]
  else .debug "Packet not fully decoded" [("diagnostic", d.message)]

namespace Registry

/-- What is logged while the device of a packet is looked for. -/
def resolveLog (r : Registry) (key : String) (p : Packet) : List LogRecord :=
  if key = "" then
    [.debug "Packet without serial number" [("command", p.command.label)]]
  else
    match r.devices.find? key with
    | some _ => []
    | none =>
      Device.lookupLog (some key) r.configurations ++
        match Device.forSerial? (some key) r.configurations with
        | none =>
          [.debug "Packet from unconfigured device"
            [("serial_nr", p.serial), ("source_type", p.source.tag)]]
        | some device =>
          if device.isDiscoverable then [.debug "Device added" [("serial_nr", key)]] else []

/-- What is logged of the events of a packet. -/
def changeLog (p : Packet) (events : List Event) : List LogRecord :=
  events.filterMap fun event =>
    event.device?.map fun device =>
      .trace "Device state changed" [("device", device.label), ("command", p.command.label)]

/-- What is logged of a packet, with its diagnostic or without. -/
def dispatchLog (r : Registry) (p : Packet) (withDiagnostic : Bool) : List LogRecord :=
  let result := r.dispatch p
  let diagnostics := if withDiagnostic then result.diagnostic.toList.map Diagnostic.record else []
  r.resolveLog (Serial.normalize p.serial) p ++ diagnostics ++ changeLog p result.events

/-- What is logged when the configurations are replaced. -/
def replaceLog (configurations : List Configuration) : List LogRecord :=
  [.debug "Replacing device configurations" [("count", toString configurations.length)]]

/-- The registry in a few words. -/
def summary (r : Registry) : String :=
  "DeviceRegistry \x7b configurations: " ++ toString r.configurations.length ++ ", devices: "
    ++ toString r.size ++ ", event_bus: EventBus \x7b sender: broadcast::Sender \x7d, .. \x7d"

end Registry
end Fieldbus
