import Fieldbus.Proofs.Decimal.Byte
import Fieldbus.Proofs.Device.Shape

/-!
# The channel of a thermostat

The property for the channel takes integers and texts, and of both only those that denote a byte.
The thermostat of a configuration takes frames of that channel, and of the default one where no
channel is given or none can be made out.
-/
namespace Fieldbus

namespace Configuration

open Json (Value)

variable {config : Configuration} {value : Value} {n : UInt8}

/-- The values that denote a byte: the integer equal to it, and a text with nothing but white space
around a numeral of it. No other kind of value does. -/
inductive Denotes (n : UInt8) : Value → Prop
  | integer {inRange} : Denotes n (.number (.integer n.toNat inRange))
  | text {s} : Decimal.Numeral n.toNat (Text.trim s.toList) → Denotes n (.text s)

theorem toByte?_eq_some_iff {number : Json.Number} :
    number.toByte? = some n ↔ Denotes n (.number number) := by
  constructor
  · intro h
    cases number with
    | float => cases h
    | integer i inRange =>
        rw [Json.Number.toByte?] at h
        split at h
        · rename_i hbyte
          obtain rfl := Option.some.inj h
          have hvalue : ((UInt8.ofNat i.toNat).toNat : Int) = i := by
            rw [UInt8.toNat_ofNat_of_lt' (Int.toNat_lt hbyte.1 |>.mpr hbyte.2),
              Int.toNat_of_nonneg hbyte.1]
          generalize UInt8.ofNat i.toNat = n at hvalue ⊢
          subst hvalue
          exact .integer
        · cases h
  · intro h
    cases h with
    | integer =>
        have hlt := n.toNat_lt
        rw [Json.Number.toByte?, if_pos (by omega), Int.toNat_natCast, UInt8.ofNat_toNat]

theorem byteOf?_eq_some_iff : byteOf? value = some n ↔ Denotes n value := by
  cases value with
  | number number => exact toByte?_eq_some_iff
  | text s =>
      refine Decimal.readByte?_eq_some_iff.trans ⟨.text, fun h => ?_⟩
      cases h with
      | text h => exact h
  | null | boolean | array | object => exact iff_of_false nofun nofun

theorem byteOf?_eq_none_iff : byteOf? value = none ↔ ∀ n, ¬ Denotes n value := by
  simp only [Option.eq_none_iff_forall_ne_some, ne_eq, byteOf?_eq_some_iff]

/-! ## The property -/

theorem channel?_eq_none_iff :
    config.channel? = .ok none ↔ config.property? channelProperty = none := by
  unfold channel?
  cases config.property? channelProperty with
  | none => simp
  | some value => cases h : byteOf? value <;> simp [h]

theorem channel?_eq_some_iff :
    config.channel? = .ok (some n) ↔
      ∃ value, config.property? channelProperty = some value ∧ Denotes n value := by
  unfold channel?
  cases config.property? channelProperty with
  | none => simp
  | some value =>
      simp only [Option.some.injEq, exists_eq_left', ← byteOf?_eq_some_iff]
      cases byteOf? value <;> simp

theorem channel?_eq_error_iff {e : ConfigurationError} :
    config.channel? = .error e ↔
      ∃ value, config.property? channelProperty = some value ∧ (∀ n, ¬ Denotes n value) ∧
        e = .property channelProperty value.toText := by
  unfold channel?
  cases config.property? channelProperty with
  | none => simp
  | some value =>
      simp only [Option.some.injEq, exists_eq_left', ← byteOf?_eq_none_iff]
      cases byteOf? value <;> simp [eq_comm]

end Configuration

/-! ## Thermostats -/

namespace Device

variable {config : Configuration} {d : Device} {t : Thermostat} {p : Packet}

theorem heatingChannel_cases (config : Configuration) :
    config.channel? = .ok (some (heatingChannel config)) ∨
      (∀ n, config.channel? ≠ .ok (some n)) ∧ heatingChannel config = 1 := by
  unfold heatingChannel
  match config.channel? with
  | .ok (some channel) => exact .inl rfl
  | .ok none => exact .inr ⟨nofun, rfl⟩
  | .error e => exact .inr ⟨nofun, rfl⟩

theorem channels_ofConfiguration (h : config.model.family = .floorHeating) :
    (ofConfiguration config).channels = .floorHeating (.unknown (heatingChannel config)) := by
  unfold ofConfiguration
  rw [h]

theorem decode_of_floorHeating (h : d.channels = .floorHeating t) :
    (d.decode p).2 = match t.decode p with
      | .ok _ => none
      | .error reason => some (.refused d.model reason) := by
  cases hp : t.decode p with
  | ok u =>
      have hu : d.channels.decode d.model p = .ok (u.map .floorHeating) := by
        rw [h]
        exact Channels.decode_eq_ok_iff.mpr (.floorHeating hp)
      rw [decode_of_ok hu]
  | error reason =>
      have he : d.channels.decode d.model p = .error (.refused d.model reason) := by
        rw [h]
        exact Channels.decode_eq_error_iff.mpr (.inl ⟨reason, .floorHeating hp, rfl⟩)
      rw [decode_of_error he]

theorem takes_iff (h : d.channels = .floorHeating t) :
    (d.decode p).2 = none ↔ Thermostat.Accepted t.channel p := by
  rw [decode_of_floorHeating h, ← Thermostat.exists_decode_iff]
  cases t.decode p <;> simp

theorem mismatch_iff (h : d.channels = .floorHeating t) {expected actual : UInt8} :
    (d.decode p).2 = some (.refused d.model (.channelMismatch expected actual)) ↔
      expected = t.channel ∧ p.data[0]? = some actual ∧ actual ≠ t.channel := by
  rw [decode_of_floorHeating h, ← Thermostat.decode_mismatch_iff]
  cases t.decode p <;> simp

/-- The thermostat of a configuration is on its channel, whatever has been done to it. -/
theorem exists_thermostat (h : config.model.family = .floorHeating) (calls : List Call) :
    ∃ t, (ofCalls config calls).channels = .floorHeating t ∧ t.channel = heatingChannel config := by
  have hshape := ((ofConfiguration config).sameShape_after calls).channels
  rw [channels_ofConfiguration h] at hshape
  change Channels.SameShape _ (ofCalls config calls).channels at hshape
  cases hchannels : (ofCalls config calls).channels <;> rw [hchannels] at hshape <;> cases hshape
  case floorHeating t hchannel => exact ⟨t, rfl, hchannel⟩

theorem model_ofCalls (h : config.model.family = .floorHeating) (calls : List Call) :
    (ofCalls config calls).model = config.model := by
  refine (((ofConfiguration config).sameShape_after calls).model).trans ?_
  rw [model_ofConfiguration, h, if_neg nofun]

end Device

/-! ## The main statement -/

/-- The property for the channel is taken exactly where it denotes a byte; where it is there and
denotes none, the error has its name and the whole value as JSON text. The device of a floor heating
model is made all the same, with the channel that is denoted, or the first where none is. Whatever
is done to the device, it refuses the frames of every other channel as such and none of this one,
and takes the status replies of this one that are long enough. -/
theorem Configuration.channel_exact (config : Configuration) :
    (config.channel? = .ok none ↔ config.property? channelProperty = none) ∧
    (∀ n, config.channel? = .ok (some n) ↔
      ∃ value, config.property? channelProperty = some value ∧ Denotes n value) ∧
    (∀ e, config.channel? = .error e ↔
      ∃ value, config.property? channelProperty = some value ∧ (∀ n, ¬ Denotes n value) ∧
        e = .property channelProperty value.toText) ∧
    (config.model.family = .floorHeating → ∃ channel,
      (config.channel? = .ok (some channel) ∨
        (∀ n, config.channel? ≠ .ok (some n)) ∧ channel = 1) ∧
      (Device.ofConfiguration config).channels = .floorHeating (.unknown channel) ∧
      ∀ calls p,
        (((Device.ofCalls config calls).decode p).2 = none ↔ Thermostat.Accepted channel p) ∧
        ∀ expected actual,
          ((Device.ofCalls config calls).decode p).2
              = some (.refused config.model (.channelMismatch expected actual)) ↔
            expected = channel ∧ p.data[0]? = some actual ∧ actual ≠ channel) := by
  refine ⟨channel?_eq_none_iff, fun _ => channel?_eq_some_iff, fun _ => channel?_eq_error_iff,
    fun h => ⟨Device.heatingChannel config, Device.heatingChannel_cases config,
      Device.channels_ofConfiguration h, fun calls p => ?_⟩⟩
  obtain ⟨t, hchannels, hchannel⟩ := Device.exists_thermostat h calls
  rw [← hchannel]
  refine ⟨Device.takes_iff hchannels, fun expected actual => ?_⟩
  rw [← Device.model_ofCalls h calls]
  exact Device.mismatch_iff hchannels

end Fieldbus
