import Fieldbus.Proofs.Registry.Outcome
import Mathlib.Data.Set.Card

/-!
# How devices are filed

Every device is held under the normalized form of the serial number that is stored in it, and is not
marked as changed. One operation keeps this (`Filed.step`), and so does a whole run.
-/
namespace Fieldbus

/-- The key is the one under which the device belongs, and the mark of a change is cleared. -/
structure Device.FiledUnder (d : Device) (key : String) : Prop where
  named : key ≠ ""
  serial : Serial.normalize d.serial = key
  clean : d.updated = false

namespace Device.FiledUnder

variable {d : Device} {key : String}

theorem normalize_key (h : d.FiledUnder key) : Serial.normalize key = key := by
  rw [← h.serial, Serial.normalize_normalize]

theorem decode (h : d.FiledUnder key) (p : Packet) :
    ((d.decode p).1.setUpdated false).FiledUnder key where
  named := h.named
  serial := by rw [setUpdated, serial_decode, h.serial]
  clean := rfl

theorem ofConfiguration {config : Configuration} (hne : key ≠ "")
    (hserial : Serial.normalize config.serial = key) :
    (Device.ofConfiguration config).FiledUnder key where
  named := hne
  serial := by rw [serial_ofConfiguration, hserial]
  clean := updated_ofConfiguration config

end Device.FiledUnder

namespace Registry

/-- All devices are where they belong. -/
def Filed (r : Registry) : Prop :=
  ∀ entry ∈ r.devices.toList, entry.2.FiledUnder entry.1

namespace Filed

variable {r : Registry} {key : String} {d : Device}

theorem ofConfigurations (configurations : List Configuration) :
    (Registry.ofConfigurations configurations).Filed := by
  intro entry hentry
  cases hentry

theorem of_find? (h : r.Filed) (hd : r.devices.find? key = some d) : d.FiledUnder key :=
  h _ (Dictionary.mem_toList_of_find? hd)

theorem of_found (h : r.Filed) {isNew : Bool} (hfound : r.Found key d isNew)
    (hclaimed : ¬ r.Unclaimed key) : d.FiledUnder key := by
  cases hfound with
  | held hd => exact h.of_find? hd
  | made _ hconfig =>
      refine .ofConfiguration (fun hempty => hclaimed (.inl hempty)) ?_
      simpa using List.find?_some hconfig

theorem dispatch (h : r.Filed) (p : Packet) : (r.dispatch p).registry.Filed := by
  cases hresolve : r.resolve? (Serial.normalize p.serial) with
  | none =>
      rw [dispatch_of_unknown hresolve]
      exact h
  | some found =>
      obtain ⟨hfound, hclaimed⟩ :=
        found_of_resolve?_some (Serial.normalize_normalize p.serial) hresolve
      rw [dispatch_of_resolved hresolve]
      intro entry hentry
      rcases Dictionary.mem_toList_insert hentry with rfl | hold
      · exact (h.of_found hfound hclaimed).decode p
      · exact h entry hold

theorem remove (h : r.Filed) (serial : String) : (r.remove serial).1.Filed := by
  cases hd : r.devices.find? (Serial.normalize serial) with
  | none =>
      rw [remove_of_not_held hd]
      exact h
  | some d =>
      rw [remove_of_held hd]
      exact fun entry hentry => h entry (Dictionary.mem_toList_erase hentry)

theorem step (h : r.Filed) (op : Operation) : (r.step op).1.Filed := by
  cases op with
  | packet p => exact h.dispatch p
  | remove serial => exact h.remove serial
  | configure configurations => exact h

theorem after (h : r.Filed) (ops : List Operation) : (r.after ops).Filed := by
  induction ops generalizing r with
  | nil => exact h
  | cons op ops ih => exact ih (h.step op)

/-! ## What is answered -/

theorem device?_of_isBlank (h : r.Filed) {serial : String} (hblank : Serial.isBlank serial = true) :
    r.device? serial = none := by
  rw [device?, Serial.normalize_of_isBlank hblank]
  cases hd : r.devices.find? "" with
  | none => rfl
  | some d => exact absurd rfl (h.of_find? hd).named

/-- The keys are the normalized forms of the serial numbers that are answered. -/
theorem mem_keys_iff (h : r.Filed) :
    key ∈ r.devices.keys ↔ ∃ serial, Serial.normalize serial = key ∧ r.device? serial ≠ none := by
  rw [Dictionary.mem_keys_iff]
  constructor
  · intro hheld
    obtain ⟨d, hd⟩ := Option.ne_none_iff_exists'.mp hheld
    have hnorm := (h.of_find? hd).normalize_key
    refine ⟨key, hnorm, ?_⟩
    rwa [device?, hnorm]
  · rintro ⟨serial, rfl, hheld⟩
    exact hheld

theorem size_eq_ncard (h : r.Filed) :
    r.size = Set.ncard {key | ∃ serial, Serial.normalize serial = key ∧ r.device? serial ≠ none} := by
  have hkeys : {key | ∃ serial, Serial.normalize serial = key ∧ r.device? serial ≠ none}
      = (r.devices.keys.toFinset : Set String) := by
    ext key
    rw [List.coe_toFinset, Set.mem_ofPred_eq, Set.mem_ofPred_eq, h.mem_keys_iff]
  rw [hkeys, Set.ncard_coe_finset, List.toFinset_card_of_nodup r.devices.nodup_keys]
  exact (List.length_map _).symm

end Filed

/-! ## The main statement -/

/-- Whatever has been done to a registry, every device in it, readable or not, is held under the
normalized form of its stored serial number, which is not empty, and is not marked; no key stands
twice. So serial numbers with one normalized form are answered alike, blank ones are not answered,
and there are as many devices as there are normalized serial numbers that are answered. -/
theorem filed_ofRun (initial : List Configuration) (ops : List Operation) :
    (∀ key d, (key, d) ∈ (ofRun initial ops).devices.toList →
      key ≠ "" ∧ Serial.normalize key = key ∧ Serial.normalize d.serial = key ∧
        d.updated = false) ∧
    (ofRun initial ops).devices.keys.Nodup ∧
    (∀ a b, Serial.normalize a = Serial.normalize b →
      (ofRun initial ops).device? a = (ofRun initial ops).device? b) ∧
    (∀ serial, Serial.isBlank serial = true → (ofRun initial ops).device? serial = none) ∧
    (ofRun initial ops).size = (ofRun initial ops).devices.values.length ∧
    (ofRun initial ops).size = Set.ncard
      {key | ∃ serial, Serial.normalize serial = key ∧ (ofRun initial ops).device? serial ≠ none} := by
  have hfiled : (ofRun initial ops).Filed := (Filed.ofConfigurations initial).after ops
  refine ⟨fun key d hentry => ?_, Dictionary.nodup_keys _, fun a b hsame => ?_,
    fun serial => hfiled.device?_of_isBlank, (List.length_map _).symm, hfiled.size_eq_ncard⟩
  · have hd := hfiled _ hentry
    exact ⟨hd.named, hd.normalize_key, hd.serial, hd.clean⟩
  · rw [device?, device?, hsame]

end Registry
end Fieldbus
