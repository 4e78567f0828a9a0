import Fieldbus.Proofs.Codec.DimmerBank
import Fieldbus.Proofs.Codec.RelayBank
import Fieldbus.Proofs.Codec.Thermostat
import Fieldbus.Reply

/-!
# What a packet does to a device

The codec of the family takes the packet or refuses it. A packet that is taken changes the channels
and may raise the mark of a change, nothing else; a packet that is refused changes nothing. The mark
itself has no part in how a packet is taken.
-/
namespace Fieldbus

namespace Channels

variable {p : Packet} {s : Channels} {m : Model} {t : Tracked Channels} {d : Diagnostic}

/-- The codec of the family takes the packet. -/
inductive Takes (p : Packet) : Channels → Tracked Channels → Prop
  | relay {bank t} : bank.decode p = .ok t → Takes p (.relay bank) (t.map .relay)
  | dimmer {bank t} : bank.decode p = .ok t → Takes p (.dimmer bank) (t.map .dimmer)
  | floorHeating {thermostat t} :
      thermostat.decode p = .ok t → Takes p (.floorHeating thermostat) (t.map .floorHeating)

/-- The codec of the family refuses the packet. Unsupported channels have no codec. -/
inductive Refuses (p : Packet) : Channels → Refusal → Prop
  | relay {bank reason} : bank.decode p = .error reason → Refuses p (.relay bank) reason
  | dimmer {bank reason} : bank.decode p = .error reason → Refuses p (.dimmer bank) reason
  | floorHeating {thermostat reason} :
      thermostat.decode p = .error reason → Refuses p (.floorHeating thermostat) reason

theorem decode_eq_ok_iff : s.decode m p = .ok t ↔ Takes p s t := by
  constructor
  · intro h
    cases s with
    | relay bank =>
        obtain ⟨u, hu, rfl⟩ := map_mapError_eq_ok.mp h
        exact .relay hu
    | dimmer bank =>
        obtain ⟨u, hu, rfl⟩ := map_mapError_eq_ok.mp h
        exact .dimmer hu
    | floorHeating thermostat =>
        obtain ⟨u, hu, rfl⟩ := map_mapError_eq_ok.mp h
        exact .floorHeating hu
    | unsupported => cases h
  · intro h
    cases h with
    | relay hu => exact map_mapError_eq_ok.mpr ⟨_, hu, rfl⟩
    | dimmer hu => exact map_mapError_eq_ok.mpr ⟨_, hu, rfl⟩
    | floorHeating hu => exact map_mapError_eq_ok.mpr ⟨_, hu, rfl⟩

theorem decode_eq_error_iff :
    s.decode m p = .error d ↔
      (∃ reason, Refuses p s reason ∧ d = .refused m reason) ∨
      (s = .unsupported ∧ d = .unsupportedDevice p.command) := by
  constructor
  · intro h
    cases s with
    | relay bank =>
        obtain ⟨reason, hr, rfl⟩ := map_mapError_eq_error.mp h
        exact .inl ⟨reason, .relay hr, rfl⟩
    | dimmer bank =>
        obtain ⟨reason, hr, rfl⟩ := map_mapError_eq_error.mp h
        exact .inl ⟨reason, .dimmer hr, rfl⟩
    | floorHeating thermostat =>
        obtain ⟨reason, hr, rfl⟩ := map_mapError_eq_error.mp h
        exact .inl ⟨reason, .floorHeating hr, rfl⟩
    | unsupported => exact .inr ⟨rfl, (Except.error.inj h).symm⟩
  · rintro (⟨reason, h, rfl⟩ | ⟨rfl, rfl⟩)
    · cases h with
      | relay hr => exact map_mapError_eq_error.mpr ⟨_, hr, rfl⟩
      | dimmer hr => exact map_mapError_eq_error.mpr ⟨_, hr, rfl⟩
      | floorHeating hr => exact map_mapError_eq_error.mpr ⟨_, hr, rfl⟩
    · rfl

theorem Takes.exact (h : Takes p s t) : t.Exact s := by
  cases h with
  | relay hu => exact (RelayBank.decode_exact hu).map fun _ _ => Channels.relay.inj
  | dimmer hu => exact (DimmerBank.decode_exact hu).map fun _ _ => Channels.dimmer.inj
  | floorHeating hu => exact (Thermostat.decode_exact hu).map fun _ _ => Channels.floorHeating.inj

theorem answer_of_takes (h : Takes p s t) (m : Model) : s.answer m p = .of m s (.ok t) := by
  cases h with
  | relay h => rw [answer, RelayBank.answer, h]; rfl
  | dimmer h => rw [answer, DimmerBank.answer, h]; rfl
  | floorHeating h => rw [answer, Thermostat.answer, h]; rfl

theorem answer_of_refuses {reason : Refusal} (h : Refuses p s reason) (m : Model) :
    s.answer m p = .of m s (.error reason) := by
  cases h with
  | relay h => rw [answer, RelayBank.answer, h]; cases reason <;> rfl
  | dimmer h => rw [answer, DimmerBank.answer, h]; cases reason <;> rfl
  | floorHeating h => rw [answer, Thermostat.answer, h]; cases reason <;> rfl

theorem takes_or_refuses (p : Packet) (s : Channels) :
    (∃ t, Takes p s t) ∨ (∃ reason, Refuses p s reason) ∨ s = .unsupported := by
  cases h : s.decode .invalid p with
  | ok t => exact .inl ⟨t, decode_eq_ok_iff.mp h⟩
  | error d =>
      rcases decode_eq_error_iff.mp h with ⟨reason, hrefuses, _⟩ | ⟨hs, _⟩
      · exact .inr (.inl ⟨reason, hrefuses⟩)
      · exact .inr (.inr hs)

end Channels

namespace Device

variable {d : Device} {p : Packet} {t : Tracked Channels} {diagnostic : Diagnostic}

theorem decode_of_ok (h : d.channels.decode d.model p = .ok t) :
    d.decode p = ({ d with channels := t.state, updated := d.updated || t.changed }, none) := by
  simp only [decode, h]

theorem decode_of_error (h : d.channels.decode d.model p = .error diagnostic) :
    d.decode p = (d, some diagnostic) := by
  simp only [decode, h]

/-! ## What stays -/

@[simp] theorem model_decode (d : Device) (p : Packet) : (d.decode p).1.model = d.model := by
  unfold decode
  split <;> rfl

@[simp] theorem serial_decode (d : Device) (p : Packet) : (d.decode p).1.serial = d.serial := by
  unfold decode
  split <;> rfl

theorem isDiscoverable_decode (d : Device) (p : Packet) :
    (d.decode p).1.isDiscoverable = d.isDiscoverable := by
  cases h : d.channels.decode d.model p with
  | error diagnostic => rw [decode_of_error h]
  | ok t =>
      rw [decode_of_ok h]
      have htakes := Channels.decode_eq_ok_iff.mp h
      revert htakes
      unfold isDiscoverable
      generalize d.channels = s
      rintro (_ | _ | _) <;> rfl

theorem decode_of_not_discoverable (h : d.isDiscoverable = false) (p : Packet) :
    (d.decode p).1 = d := by
  have hs : d.channels = .unsupported := by
    revert h
    unfold isDiscoverable
    cases d.channels with
    | unsupported => exact fun _ => rfl
    | _ => exact fun h => nomatch h
  have herror : d.channels.decode d.model p = .error (.unsupportedDevice p.command) := by
    rw [hs]
    rfl
  rw [decode_of_error herror]

/-! ## The mark of a change -/

theorem updated_ofConfiguration (config : Configuration) :
    (ofConfiguration config).updated = false := by
  unfold ofConfiguration
  cases config.model.family <;> rfl

theorem serial_ofConfiguration (config : Configuration) :
    (ofConfiguration config).serial = config.serial := by
  unfold ofConfiguration
  cases config.model.family <;> rfl

@[simp] theorem setUpdated_setUpdated (d : Device) (a b : Bool) :
    (d.setUpdated a).setUpdated b = d.setUpdated b := rfl

theorem setUpdated_of_updated {d : Device} {b : Bool} (h : d.updated = b) : d.setUpdated b = d := by
  rw [← h]
  rfl

/-- However the mark stands before a packet, and whatever is done to it after, the rest is the
same. -/
theorem setUpdated_decode_setUpdated (d : Device) (p : Packet) (a b : Bool) :
    ((d.setUpdated a).decode p).1.setUpdated b = (d.decode p).1.setUpdated b := by
  cases h : d.channels.decode d.model p with
  | error diagnostic =>
      rw [decode_of_error h, decode_of_error (d := d.setUpdated a) h]
      rfl
  | ok t =>
      rw [decode_of_ok h, decode_of_ok (d := d.setUpdated a) h]
      rfl

theorem channels_decode_setUpdated (d : Device) (p : Packet) (a : Bool) :
    ((d.setUpdated a).decode p).1.channels = (d.decode p).1.channels := by
  have h := congrArg channels (setUpdated_decode_setUpdated d p a false)
  exact h

/-- The mark is raised exactly by a packet that changes the channels, and never cleared. -/
theorem updated_decode_iff (d : Device) (p : Packet) :
    (d.decode p).1.updated = true ↔ d.updated = true ∨ (d.decode p).1.channels ≠ d.channels := by
  cases h : d.channels.decode d.model p with
  | error diagnostic => simp [decode_of_error h]
  | ok t =>
      have hexact : t.changed = true ↔ t.state ≠ d.channels :=
        (Channels.decode_eq_ok_iff.mp h).exact
      rw [decode_of_ok h]
      simp only [Bool.or_eq_true, hexact]

theorem decode_of_channels_eq (h : (d.decode p).1.channels = d.channels) : (d.decode p).1 = d := by
  cases hdecode : d.channels.decode d.model p with
  | error diagnostic => rw [decode_of_error hdecode]
  | ok t =>
      have hstate : t.state = d.channels := by rwa [decode_of_ok hdecode] at h
      have hstart : t = .start d.channels :=
        (Channels.decode_eq_ok_iff.mp hdecode).exact.eq_start hstate
      rw [decode_of_ok hdecode, hstart]
      simp only [Tracked.start, Bool.or_false]

end Device
end Fieldbus
