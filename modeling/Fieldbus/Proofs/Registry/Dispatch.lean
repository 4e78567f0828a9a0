import Fieldbus.Proofs.Device.Basic
import Fieldbus.Proofs.Serial
import Fieldbus.Registry.Basic

/-!
# What dispatching a packet does

Each of the cases of `Registry.resolve?` and `Registry.dispatch` is said once here. What follows of
runs does not look into the two again.
-/
namespace Fieldbus

/-! ## Finding the device -/

theorem Device.forSerial?_of_normalized {key : String} (hne : key ≠ "")
    (hnorm : Serial.normalize key = key) (configs : List Configuration) :
    Device.forSerial? (some key) configs
      = (configs.find? fun config => Serial.normalize config.serial = key).map
          Device.ofConfiguration := by
  have hlookup : Device.lookupKey? (some key) = some key := by
    simp [Device.lookupKey?, hnorm, Option.filter, hne]
  have hagrees : (fun config : Configuration => Serial.agrees config.serial key)
      = fun config => decide (Serial.normalize config.serial = key) := by
    funext config
    rw [Bool.eq_iff_iff, decide_eq_true_eq]
    exact Serial.agrees_iff hnorm
  rw [Device.forSerial?, hlookup, Option.bind_some, Configuration.withSerial?, hagrees]

namespace Registry

variable {r : Registry} {p : Packet} {key : String} {d : Device} {isNew : Bool}

theorem resolve?_empty (r : Registry) : r.resolve? "" = none := by
  simp [resolve?]

theorem resolve?_of_held (hne : key ≠ "") (hd : r.devices.find? key = some d) :
    r.resolve? key = some (d, false) := by
  simp [resolve?, hne, hd]

theorem resolve?_of_not_held (hne : key ≠ "") (hnorm : Serial.normalize key = key)
    (hd : r.devices.find? key = none) :
    r.resolve? key
      = (r.configurations.find? fun config => Serial.normalize config.serial = key).map
          fun config => (.ofConfiguration config, true) := by
  simp only [resolve?, hne, if_false, hd, Device.forSerial?_of_normalized hne hnorm,
    Option.map_map]
  rfl

/-! ## Taking the packet in -/

theorem dispatch_of_unknown (h : r.resolve? (Serial.normalize p.serial) = none) :
    r.dispatch p =
      { registry := r, outcome := .unknownDevice,
        events := [.unknown (Serial.normalize p.serial) p.address], diagnostic := none } := by
  simp only [dispatch, h]

/-- On the branch where nothing changed the device is kept as it is. It is not marked there, so that
this is the device with its mark cleared. -/
theorem dispatch_of_resolved (h : r.resolve? (Serial.normalize p.serial) = some (d, isNew)) :
    r.dispatch p =
      { registry :=
          { r with
            devices :=
              r.devices.insert (Serial.normalize p.serial) ((d.decode p).1.setUpdated false) },
        outcome := if (d.decode p).1.updated then .changed else .unchanged,
        events := announcement (Serial.normalize p.serial) d isNew ++
          if (d.decode p).1.updated then [.changed (Serial.normalize p.serial) (d.decode p).1]
          else [],
        diagnostic := (d.decode p).2 } := by
  simp only [dispatch, h]
  by_cases hupdated : (d.decode p).1.updated = true
  · simp only [if_pos hupdated]
  · have hclean := Device.setUpdated_of_updated (Bool.eq_false_iff.mpr hupdated)
    simp only [if_neg hupdated, List.append_nil, hclean]

/-! ## Removing a device -/

theorem remove_of_held {serial : String}
    (hd : r.devices.find? (Serial.normalize serial) = some d) :
    r.remove serial =
      ({ r with devices := r.devices.erase (Serial.normalize serial) },
        [.removed (Serial.normalize serial)]) := by
  simp only [remove, hd]

theorem remove_of_not_held {serial : String}
    (hd : r.devices.find? (Serial.normalize serial) = none) : r.remove serial = (r, []) := by
  simp only [remove, hd]

/-! ## What is left alone -/

theorem configurations_dispatch (r : Registry) (p : Packet) :
    (r.dispatch p).registry.configurations = r.configurations := by
  cases h : r.resolve? (Serial.normalize p.serial) with
  | none => rw [dispatch_of_unknown h]
  | some found => rw [dispatch_of_resolved h]

theorem configurations_remove (r : Registry) (serial : String) :
    (r.remove serial).1.configurations = r.configurations := by
  cases h : r.devices.find? (Serial.normalize serial) with
  | none => rw [remove_of_not_held h]
  | some d => rw [remove_of_held h]

theorem find?_dispatch_of_ne (h : Serial.normalize p.serial ≠ key) :
    (r.dispatch p).registry.devices.find? key = r.devices.find? key := by
  cases hr : r.resolve? (Serial.normalize p.serial) with
  | none => rw [dispatch_of_unknown hr]
  | some found =>
      rw [dispatch_of_resolved hr]
      exact Dictionary.find?_insert_of_ne _ _ (Ne.symm h)

theorem find?_dispatch_of_resolved
    (h : r.resolve? (Serial.normalize p.serial) = some (d, isNew)) :
    (r.dispatch p).registry.devices.find? (Serial.normalize p.serial)
      = some ((d.decode p).1.setUpdated false) := by
  rw [dispatch_of_resolved h]
  exact Dictionary.find?_insert_self _ _ _

theorem find?_remove_self (r : Registry) (serial : String) :
    (r.remove serial).1.devices.find? (Serial.normalize serial) = none := by
  cases h : r.devices.find? (Serial.normalize serial) with
  | none => rw [remove_of_not_held h, h]
  | some d =>
      rw [remove_of_held h]
      simp [Dictionary.find?_erase]

theorem find?_remove_of_ne {serial : String} (h : Serial.normalize serial ≠ key) :
    (r.remove serial).1.devices.find? key = r.devices.find? key := by
  cases hd : r.devices.find? (Serial.normalize serial) with
  | none => rw [remove_of_not_held hd]
  | some d =>
      rw [remove_of_held hd]
      simp [Dictionary.find?_erase, Ne.symm h]

/-! ## Who is told of -/

theorem announcement_of_held (key : String) (d : Device) : announcement key d false = [] := rfl

theorem serial_of_mem_announcement {e : Event} (he : e ∈ announcement key d isNew) :
    e.serial = key := by
  unfold announcement at he
  split at he
  · rw [List.mem_singleton.mp he]
    rfl
  · cases he

theorem serial_of_mem_dispatch {e : Event} (he : e ∈ (r.dispatch p).events) :
    e.serial = Serial.normalize p.serial := by
  cases h : r.resolve? (Serial.normalize p.serial) with
  | none =>
      rw [dispatch_of_unknown h] at he
      rw [List.mem_singleton.mp he]
      rfl
  | some found =>
      rw [dispatch_of_resolved h] at he
      rcases List.mem_append.mp he with he | he
      · exact serial_of_mem_announcement he
      · split at he
        · rw [List.mem_singleton.mp he]
          rfl
        · cases he

theorem serial_of_mem_remove {serial : String} {e : Event} (he : e ∈ (r.remove serial).2) :
    e.serial = Serial.normalize serial := by
  cases hd : r.devices.find? (Serial.normalize serial) with
  | none =>
      rw [remove_of_not_held hd] at he
      cases he
  | some d =>
      rw [remove_of_held hd] at he
      rw [List.mem_singleton.mp he]
      rfl

end Registry
end Fieldbus
