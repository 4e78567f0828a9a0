import Fieldbus.Proofs.Device.Run
import Fieldbus.Proofs.Dictionary
import Fieldbus.Proofs.Registry.Replay

/-!
# All that a packet does to a registry

A packet finds nobody and is told of as unknown, or it goes to one device, which is held from then
on. What is answered and what is told follows from whether the channels of that device are other
ones than before. That depends on the past: the devices that are held are never marked as changed.
-/
namespace Fieldbus

theorem Life.device_eq_ofCalls (life : Life) :
    life.device = Device.ofCalls life.config (life.packets.map .decode ++ [.setUpdated false]) := by
  rw [device, Device.ofCalls, Device.after, List.foldl_append, List.foldl_map]
  rfl

namespace Registry

variable {r : Registry} {key : String} {p : Packet} {before : Device} {isNew : Bool}

/-- Nobody goes by a key. -/
def Unclaimed (r : Registry) (key : String) : Prop :=
  key = "" ∨ (r.devices.find? key = none ∧
    ∀ config ∈ r.configurations, Serial.normalize config.serial ≠ key)

/-- The device that a key leads to, and whether it has to be made first. -/
inductive Found (r : Registry) (key : String) : Device → Bool → Prop
  | held {d} : r.devices.find? key = some d → Found r key d false
  | made {config} : r.devices.find? key = none →
      (r.configurations.find? fun config => Serial.normalize config.serial = key) = some config →
      Found r key (.ofConfiguration config) true

/-- What a packet does that goes to a device, and what it leaves alone. -/
structure Handled (r : Registry) (p : Packet) (before : Device) (isNew : Bool) (after : Device)
    (result : Dispatch) : Prop where
  decoded : after = (before.decode p).1.setUpdated false
  held : result.registry.devices.find? (Serial.normalize p.serial) = some after
  outcome : result.outcome = if after.channels = before.channels then .unchanged else .changed
  events : result.events
    = (if isNew ∧ after.isDiscoverable then [.added (Serial.normalize p.serial) after.model] else [])
      ++ if after.channels = before.channels then []
        else [.changed (Serial.normalize p.serial) (after.setUpdated true)]
  diagnostic : result.diagnostic = (before.decode p).2
  others : ∀ key, key ≠ Serial.normalize p.serial →
    result.registry.devices.find? key = r.devices.find? key
  configurations : result.registry.configurations = r.configurations
  size : result.registry.size = r.size + if isNew then 1 else 0

/-! ## Who is found -/

theorem unclaimed_of_resolve?_none (hnorm : Serial.normalize key = key)
    (h : r.resolve? key = none) : r.Unclaimed key := by
  by_cases hne : key = ""
  · exact .inl hne
  cases hd : r.devices.find? key with
  | some d =>
      rw [resolve?_of_held hne hd] at h
      cases h
  | none =>
      rw [resolve?_of_not_held hne hnorm hd, Option.map_eq_none_iff, List.find?_eq_none] at h
      exact .inr ⟨hd, fun config hconfig => by simpa using h config hconfig⟩

theorem found_of_resolve?_some (hnorm : Serial.normalize key = key)
    (h : r.resolve? key = some (before, isNew)) : r.Found key before isNew ∧ ¬ r.Unclaimed key := by
  have hne : key ≠ "" := by
    rintro rfl
    rw [resolve?_empty] at h
    cases h
  cases hd : r.devices.find? key with
  | some d =>
      rw [resolve?_of_held hne hd] at h
      cases h
      refine ⟨.held hd, ?_⟩
      rintro (hempty | ⟨hnone, -⟩)
      · exact hne hempty
      · rw [hd] at hnone
        cases hnone
  | none =>
      rw [resolve?_of_not_held hne hnorm hd] at h
      obtain ⟨config, hconfig, hpair⟩ := Option.map_eq_some_iff.mp h
      cases hpair
      refine ⟨.made hd hconfig, ?_⟩
      rintro (hempty | ⟨-, hnobody⟩)
      · exact hne hempty
      · exact hnobody config (List.mem_of_find?_eq_some hconfig)
          (by simpa using List.find?_some hconfig)

/-- A device that is found is not marked, and its temperatures are those of bytes. -/
theorem Found.settled {initial : List Configuration} {ops : List Operation}
    (h : (ofRun initial ops).Found key before isNew) :
    before.updated = false ∧ before.channels.Bytewise := by
  cases h with
  | held hd =>
      rw [(Tracks.ofRun key initial ops).held] at hd
      obtain ⟨life, -, rfl⟩ := Option.map_eq_some_iff.mp hd
      refine ⟨life.updated_device, ?_⟩
      rw [life.device_eq_ofCalls]
      exact Device.bytewise_ofCalls _ _
  | made => exact ⟨Device.updated_ofConfiguration _, Device.bytewise_ofConfiguration _⟩

theorem Found.size_insert (h : r.Found key before isNew) (d : Device) :
    (r.devices.insert key d).size = r.devices.size + if isNew then 1 else 0 := by
  cases h with
  | held hd => exact Dictionary.size_insert_of_find? hd d
  | made hd => exact Dictionary.size_insert hd d

/-! ## What happens to it -/

theorem handled_dispatch (hfound : r.Found (Serial.normalize p.serial) before isNew)
    (hresolve : r.resolve? (Serial.normalize p.serial) = some (before, isNew))
    (hclean : before.updated = false) :
    Handled r p before isNew ((before.decode p).1.setUpdated false) (r.dispatch p) := by
  have hmark : (before.decode p).1.updated = true ↔
      ¬ (before.decode p).1.channels = before.channels := by
    rw [Device.updated_decode_iff, hclean]
    exact or_iff_right Bool.false_ne_true
  have hannounced : announcement (Serial.normalize p.serial) before isNew
      = if isNew ∧ (before.decode p).1.isDiscoverable then
          [.added (Serial.normalize p.serial) (before.decode p).1.model] else [] := by
    rw [Device.isDiscoverable_decode, Device.model_decode, announcement]
    simp only [Bool.and_eq_true]
  refine ⟨rfl, find?_dispatch_of_resolved hresolve, ?_, ?_, ?_,
    fun key hne => find?_dispatch_of_ne hne.symm, configurations_dispatch r p, ?_⟩
  · rw [dispatch_of_resolved hresolve]
    simp only [hmark, ite_not]
    rfl
  · rw [dispatch_of_resolved hresolve]
    refine congrArg₂ (· ++ ·) hannounced ?_
    by_cases hsame : (before.decode p).1.channels = before.channels
    · exact (if_neg (not_not_intro hsame ∘ hmark.mp)).trans (if_pos hsame).symm
    · have hsnapshot := Device.setUpdated_of_updated (hmark.mpr hsame)
      refine (if_pos (hmark.mpr hsame)).trans ?_
      rw [Device.setUpdated_setUpdated, hsnapshot]
      exact (if_neg hsame).symm
  · rw [dispatch_of_resolved hresolve]
  · rw [dispatch_of_resolved hresolve]
    exact hfound.size_insert _

/-! ## The main statement -/

/-- A packet is unknown exactly if nobody goes by its serial number. It is told of then, and that is
all. Any other packet goes to the device that is held, or made for it from the first configuration
of that number, and does what `Handled` says. All events carry the serial number of the packet. -/
theorem dispatch_ofRun (initial : List Configuration) (ops : List Operation) (p : Packet) :
    (((ofRun initial ops).dispatch p).outcome = .unknownDevice ↔
      (ofRun initial ops).Unclaimed (Serial.normalize p.serial)) ∧
    ((ofRun initial ops).Unclaimed (Serial.normalize p.serial) →
      (ofRun initial ops).dispatch p =
        { registry := ofRun initial ops, outcome := .unknownDevice,
          events := [.unknown (Serial.normalize p.serial) p.address], diagnostic := none }) ∧
    (¬ (ofRun initial ops).Unclaimed (Serial.normalize p.serial) →
      ∃ before isNew after, (ofRun initial ops).Found (Serial.normalize p.serial) before isNew ∧
        Handled (ofRun initial ops) p before isNew after ((ofRun initial ops).dispatch p) ∧
        (after.channels.same before.channels = true ↔ after.channels = before.channels)) ∧
    (∀ e ∈ ((ofRun initial ops).dispatch p).events, e.serial = Serial.normalize p.serial) := by
  have hnorm := Serial.normalize_normalize p.serial
  cases hresolve : (ofRun initial ops).resolve? (Serial.normalize p.serial) with
  | none =>
      have hunclaimed := unclaimed_of_resolve?_none hnorm hresolve
      have hdispatch := dispatch_of_unknown hresolve
      refine ⟨iff_of_true ?_ hunclaimed, fun _ => hdispatch, fun h => absurd hunclaimed h,
        fun e => serial_of_mem_dispatch⟩
      rw [hdispatch]
  | some found =>
      obtain ⟨before, isNew⟩ := found
      obtain ⟨hfound, hclaimed⟩ := found_of_resolve?_some hnorm hresolve
      obtain ⟨hclean, hbytewise⟩ := hfound.settled
      have hhandled := handled_dispatch hfound hresolve hclean
      refine ⟨iff_of_false ?_ hclaimed, fun h => absurd h hclaimed,
        fun _ => ⟨before, isNew, _, hfound, hhandled, ?_⟩, fun e => serial_of_mem_dispatch⟩
      · rw [hhandled.outcome]
        split <;> exact nofun
      · exact (Device.bytewise_decode hbytewise p).same_iff hbytewise

end Registry
end Fieldbus
