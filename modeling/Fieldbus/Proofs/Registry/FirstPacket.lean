import Fieldbus.Gateway
import Fieldbus.Proofs.Registry.Dispatch

/-!
# The first packet of a registry

A device can be made for a packet with or without a registry. The two look the serial number up in
different forms, but they come to the same device and report the same.
-/
namespace Fieldbus

theorem Device.lookupKey?_some (serial : String) :
    lookupKey? (some serial)
      = if Serial.normalize serial = "" then none else some (Serial.normalize serial) := by
  by_cases h : Serial.normalize serial = "" <;> simp [lookupKey?, Option.filter, h]

theorem Device.forSerial?_normalize (serial : String) (configs : List Configuration) :
    forSerial? (some (Serial.normalize serial)) configs = forSerial? (some serial) configs := by
  simp only [forSerial?, lookupKey?_some, Serial.normalize_normalize]

theorem Device.forSerial?_of_blank {serial : String} (h : Serial.normalize serial = "")
    (configs : List Configuration) : forSerial? (some serial) configs = none := by
  simp [forSerial?, lookupKey?_some, h]

namespace Registry

variable {configs : List Configuration} {p : Packet}

/-- With no device held, whoever is found has just been made. -/
theorem resolve?_ofConfigurations (configs : List Configuration) (serial : String) :
    (ofConfigurations configs).resolve? (Serial.normalize serial)
      = (Device.forSerial? (some serial) configs).map fun d => (d, true) := by
  by_cases hne : Serial.normalize serial = ""
  · rw [hne, resolve?_empty, Device.forSerial?_of_blank hne, Option.map_none]
  · rw [resolve?, if_neg hne]
    simp only [ofConfigurations, Dictionary.find?_empty, Device.forSerial?_normalize]

theorem resolve?_of_forPacket?_none (h : Device.forPacket? p configs = none) :
    (ofConfigurations configs).resolve? (Serial.normalize p.serial) = none := by
  have hfresh := Option.map_eq_none_iff.mp h
  rw [resolve?_ofConfigurations, hfresh, Option.map_none]

theorem resolve?_of_forPacket?_some {made : Device × Option Diagnostic}
    (h : Device.forPacket? p configs = some made) :
    ∃ fresh : Device, fresh.decode p = made ∧
      (ofConfigurations configs).resolve? (Serial.normalize p.serial) = some (fresh, true) := by
  obtain ⟨fresh, hfresh, hmade⟩ := Option.map_eq_some_iff.mp h
  refine ⟨fresh, hmade, ?_⟩
  rw [resolve?_ofConfigurations, hfresh, Option.map_some]

end Registry

namespace Gateway

/-- A gateway that has heard nothing takes a packet in as if the device were made without it. The
packet is unknown if no device can be made. If one can, the gateway holds that device with its mark
cleared, answers what the mark tells, and records the same diagnostic. -/
theorem handle_first (configs : List Configuration) (sink : Sink) (p : Packet) :
    (Device.forPacket? p configs = none ↔
      (((ofConfigurations configs).withSink sink).handle p).2.1 = .unknownDevice) ∧
    (Device.forPacket? p configs = none →
      (((ofConfigurations configs).withSink sink).handle p).1.sink = sink.record none) ∧
    (∀ d diagnostic, Device.forPacket? p configs = some (d, diagnostic) →
      (((ofConfigurations configs).withSink sink).handle p).1.registry.device? p.serial
        = some (d.setUpdated false) ∧
      (((ofConfigurations configs).withSink sink).handle p).2.1
        = (if d.updated then .changed else .unchanged) ∧
      (((ofConfigurations configs).withSink sink).handle p).1.sink = sink.record diagnostic) := by
  simp only [handle, publish, withSink, ofConfigurations]
  cases hmade : Device.forPacket? p configs with
  | none =>
      have hresolve := Registry.resolve?_of_forPacket?_none hmade
      simp [Registry.dispatch_of_unknown hresolve]
  | some made =>
      obtain ⟨fresh, rfl, hresolve⟩ := Registry.resolve?_of_forPacket?_some hmade
      have hheld := Registry.find?_dispatch_of_resolved hresolve
      have hdispatch := Registry.dispatch_of_resolved hresolve
      refine ⟨iff_of_false nofun ?_, nofun, ?_⟩
      · rw [hdispatch]
        dsimp only
        split <;> exact nofun
      · intro d diagnostic hd
        have hdecode : fresh.decode p = (d, diagnostic) := Option.some.inj hd
        rw [hdecode] at hheld hdispatch
        rw [Registry.device?, hheld, hdispatch]
        exact ⟨rfl, rfl, rfl⟩

end Gateway
end Fieldbus
