import Fieldbus.Proofs.Device.Frames
import Fieldbus.Proofs.Device.Run

/-!
# The shape of a device lasts

What a device is (its address, serial number and model, the family of its channels, how many there
are and which one a thermostat is) is settled when the device is made. Packets fill the channels in,
and never change their shape.
-/
namespace Fieldbus

/-! ## The shape of channels -/

namespace Channels

variable {s after last : Channels} {p : Packet}

/-- The family that channels are of, with the number of relays. -/
def family : Channels → Family
  | relay bank => .relay bank.size
  | dimmer _ => .dimmer
  | floorHeating _ => .floorHeating
  | unsupported => .unsupported

/-- Two states that the same channels can have. -/
inductive SameShape : Channels → Channels → Prop
  | relay {bank after : RelayBank} : after.size = bank.size → SameShape (.relay bank) (.relay after)
  | dimmer {bank after : DimmerBank} : SameShape (.dimmer bank) (.dimmer after)
  | floorHeating {t after : Thermostat} : after.channel = t.channel →
      SameShape (.floorHeating t) (.floorHeating after)
  | unsupported : SameShape .unsupported .unsupported

namespace SameShape

theorem refl (s : Channels) : s.SameShape s := by
  cases s with
  | relay => exact .relay rfl
  | dimmer => exact .dimmer
  | floorHeating => exact .floorHeating rfl
  | unsupported => exact .unsupported

theorem trans (h : s.SameShape after) (h' : after.SameShape last) : s.SameShape last := by
  cases h with
  | relay hsize =>
      cases h' with
      | relay hsize' => exact .relay (hsize'.trans hsize)
  | dimmer =>
      cases h' with
      | dimmer => exact .dimmer
  | floorHeating hchannel =>
      cases h' with
      | floorHeating hchannel' => exact .floorHeating (hchannel'.trans hchannel)
  | unsupported => exact h'

theorem family_eq (h : s.SameShape after) : after.family = s.family := by
  cases h with
  | relay hsize => exact congrArg Family.relay hsize
  | dimmer => rfl
  | floorHeating => rfl
  | unsupported => rfl

/-- Channels that have come to be those of a thermostat always were. -/
theorem of_floorHeating {t : Thermostat} (h : s.SameShape (.floorHeating t)) :
    ∃ t₀, s = .floorHeating t₀ ∧ t.channel = t₀.channel := by
  cases h with
  | floorHeating hchannel => exact ⟨_, rfl, hchannel⟩

end SameShape

theorem Applies.sameShape (h : Applies p s after) : s.SameShape after := by
  cases h with
  | relay h => exact .relay h.size_eq
  | dimmer => exact .dimmer
  | floorHeating h => exact .floorHeating h.channel_eq

end Channels

/-! ## The shape of devices -/

namespace Device

variable {d after last : Device}

/-- Two states that the same device can have. -/
structure SameShape (d after : Device) : Prop where
  address : after.address = d.address
  serial : after.serial = d.serial
  model : after.model = d.model
  channels : d.channels.SameShape after.channels

theorem SameShape.refl (d : Device) : d.SameShape d :=
  ⟨rfl, rfl, rfl, .refl d.channels⟩

theorem SameShape.trans (h : d.SameShape after) (h' : after.SameShape last) : d.SameShape last :=
  ⟨h'.address.trans h.address, h'.serial.trans h.serial, h'.model.trans h.model,
    h.channels.trans h'.channels⟩

theorem sameShape_decode (d : Device) (p : Packet) : d.SameShape (d.decode p).1 := by
  rcases d.decode_cases p with ⟨_, happlied⟩ | ⟨_, _, hsame, _⟩
  · exact ⟨happlied.address, happlied.serial, happlied.model, happlied.channels.sameShape⟩
  · rw [hsame]
    exact .refl d

theorem sameShape_call (d : Device) (c : Call) : d.SameShape (d.call c) := by
  cases c with
  | decode p => exact d.sameShape_decode p
  | setUpdated updated => exact ⟨rfl, rfl, rfl, .refl d.channels⟩

theorem sameShape_after (d : Device) (calls : List Call) : d.SameShape (d.after calls) := by
  induction calls generalizing d with
  | nil => exact .refl d
  | cons c calls ih => exact (d.sameShape_call c).trans (ih (d.call c))

theorem isDiscoverable_iff : d.isDiscoverable = true ↔ d.channels.family ≠ .unsupported := by
  unfold isDiscoverable
  cases d.channels <;> simp [Channels.family]

/-! ## Devices of configurations -/

section Configuration

variable (config : Configuration)

theorem address_ofConfiguration : (ofConfiguration config).address = config.address := by
  unfold ofConfiguration
  cases config.model.family <;> rfl

theorem model_ofConfiguration :
    (ofConfiguration config).model
      = if config.model.family = .unsupported then .invalid else config.model := by
  unfold ofConfiguration
  cases config.model.family <;> rfl

theorem family_ofConfiguration :
    (ofConfiguration config).channels.family = config.model.family := by
  unfold ofConfiguration
  cases config.model.family <;> rfl

theorem thermostat_channel_ofConfiguration {t : Thermostat}
    (h : (ofConfiguration config).channels = .floorHeating t) :
    t.channel = heatingChannel config := by
  revert h
  unfold ofConfiguration
  cases config.model.family with
  | floorHeating =>
      rintro ⟨⟩
      rfl
  | relay _ | dimmer | unsupported => exact nofun

end Configuration

/-! ## The main statement -/

/-- Whatever is done to the device of a configuration, it keeps the address and the serial number of
the configuration, and its model if its frames can be read at all. Its channels stay in the family of
that model: as many relays as the family has, dimmer levels up to 100, the channel of the thermostat
that was configured. It is worth announcing exactly if its family has frames that can be read. If
not, it shows a placeholder for its serial number, and no packet marks it. -/
theorem shape_ofCalls (config : Configuration) (calls : List Call) :
    (ofCalls config calls).address = config.address ∧
    (ofCalls config calls).serial = config.serial ∧
    (ofCalls config calls).model
      = (if config.model.family = .unsupported then .invalid else config.model) ∧
    (ofCalls config calls).channels.family = config.model.family ∧
    (∀ bank, (ofCalls config calls).channels = .relay bank →
      config.model.family = .relay bank.size ∧ bank.channels.length = bank.size.toNat) ∧
    (∀ bank, (ofCalls config calls).channels = .dimmer bank →
      ∀ index level, bank.channel index = some level → level.value.toNat ≤ 100) ∧
    (∀ t, (ofCalls config calls).channels = .floorHeating t → t.channel = heatingChannel config) ∧
    ((ofCalls config calls).isDiscoverable = true ↔ config.model.family ≠ .unsupported) ∧
    (config.model.family = .unsupported →
      (ofCalls config calls).shownSerial = "Unsupported device" ∧
      ∀ p, ((ofCalls config calls).decode p).1.updated = (ofCalls config calls).updated) := by
  have hshape : (ofConfiguration config).SameShape (ofCalls config calls) :=
    (ofConfiguration config).sameShape_after calls
  have hfamily : (ofCalls config calls).channels.family = config.model.family :=
    hshape.channels.family_eq.trans (family_ofConfiguration config)
  have hdiscoverable : (ofCalls config calls).isDiscoverable = true ↔
      config.model.family ≠ .unsupported := hfamily ▸ isDiscoverable_iff
  refine ⟨hshape.address.trans (address_ofConfiguration config),
    hshape.serial.trans (serial_ofConfiguration config),
    hshape.model.trans (model_ofConfiguration config), hfamily, fun bank hbank => ?_,
    fun bank _ index level _ => UInt8.le_iff_toNat_le.mp level.value_le,
    fun t ht => ?_, hdiscoverable, fun hunsupported => ?_⟩
  · rw [← hfamily, hbank]
    exact ⟨rfl, bank.length_channels⟩
  · have hchannels := hshape.channels
    rw [ht] at hchannels
    obtain ⟨t₀, ht₀, hchannel⟩ := hchannels.of_floorHeating
    exact hchannel.trans (thermostat_channel_ofConfiguration config ht₀)
  · have hno : (ofCalls config calls).isDiscoverable = false :=
      Bool.eq_false_iff.mpr fun h => hdiscoverable.mp h hunsupported
    refine ⟨?_, fun p => ?_⟩
    · rw [shownSerial, hno]
      rfl
    · rw [decode_of_not_discoverable hno]

end Device
end Fieldbus
