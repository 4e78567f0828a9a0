import Fieldbus.Proofs.Device.Repetition
import Fieldbus.Proofs.Registry.Outcome

/-!
# A packet that comes twice

The device of a packet is held once the packet has come, and its mark is cleared. A device has
nothing more to do with a packet that it has just heard, so the registry stays as it is, and there is
nothing to tell.
-/
namespace Fieldbus.Registry

variable {r : Registry} {p : Packet}

theorem dispatch_again_of_unknown (h : r.resolve? (Serial.normalize p.serial) = none) :
    (r.dispatch p).registry.dispatch p = r.dispatch p := by
  rw [dispatch_of_unknown h]
  exact dispatch_of_unknown h

theorem dispatch_again_of_resolved {before : Device} {isNew : Bool}
    (h : r.resolve? (Serial.normalize p.serial) = some (before, isNew)) :
    (r.dispatch p).registry.dispatch p =
      { registry := (r.dispatch p).registry, outcome := .unchanged, events := [],
        diagnostic := (r.dispatch p).diagnostic } := by
  have hne : Serial.normalize p.serial ≠ "" := by
    intro hempty
    rw [hempty, resolve?_empty] at h
    cases h
  have hheld := find?_dispatch_of_resolved h
  have hdiagnostic : (r.dispatch p).diagnostic = (before.decode p).2 := by
    rw [dispatch_of_resolved h]
  have hagain := before.decode_setUpdated_decode p false
  have hclean : ((before.decode p).1.setUpdated false).updated = false := rfl
  rw [dispatch_of_resolved (resolve?_of_held hne hheld), hagain, Device.setUpdated_setUpdated,
    Dictionary.insert_of_find? hheld, announcement_of_held, hdiagnostic]
  simp only [hclean, Bool.false_eq_true, if_false, List.append_nil]

/-! ## The main statement -/

/-- Channels of any family, whatever they hold, answer a packet that is repeated as before and stay
as they are, but that there is no change to tell of; so does a device, whether it has a codec or not.
A registry in any state stays as it was after the first packet. It tells of nothing and answers that
nothing has changed, unless nobody goes by the serial number: then the packet is unknown again. -/
theorem repeated_packet_changes_nothing (p : Packet) :
    (∀ model (s : Channels), (s.answer model p).state.answer model p =
      { state := (s.answer model p).state,
        result := (s.answer model p).result.map fun _ => false,
        reported := (s.answer model p).reported }) ∧
    (∀ d : Device, (d.decode p).1.decode p = d.decode p) ∧
    (∀ r : Registry,
      (r.Unclaimed (Serial.normalize p.serial) →
        (r.dispatch p).registry.dispatch p = r.dispatch p ∧
        (r.dispatch p).outcome = .unknownDevice) ∧
      (¬ r.Unclaimed (Serial.normalize p.serial) →
        (r.dispatch p).registry.dispatch p =
          { registry := (r.dispatch p).registry, outcome := .unchanged, events := [],
            diagnostic := (r.dispatch p).diagnostic })) := by
  refine ⟨fun model s => s.answer_answer model p, fun d => d.decode_decode p, fun r => ?_⟩
  have hnorm := Serial.normalize_normalize p.serial
  cases hresolve : r.resolve? (Serial.normalize p.serial) with
  | none =>
      refine ⟨fun _ => ⟨dispatch_again_of_unknown hresolve, ?_⟩, fun hclaimed => ?_⟩
      · rw [dispatch_of_unknown hresolve]
      · exact absurd (unclaimed_of_resolve?_none hnorm hresolve) hclaimed
  | some found =>
      obtain ⟨before, isNew⟩ := found
      obtain ⟨-, hclaimed⟩ := found_of_resolve?_some hnorm hresolve
      exact ⟨fun h => absurd h hclaimed, fun _ => dispatch_again_of_resolved hresolve⟩

end Fieldbus.Registry
