import Fieldbus.Checked
import Fieldbus.Proofs.Codec.DimmerBank
import Fieldbus.Proofs.RelayBank.Run
import Mathlib.Data.List.FinRange

/-!
# No access of a codec is out of range

A codec that looks up every access comes to the same end as the codec that knows its accesses to be
in range. So it never gets stuck, whatever the state of the device and whatever the packet. What
makes this so is the check of the length that goes before, and for the slot of a dimmer the check of
the number of its channel.
-/
namespace Fieldbus

/-! ## Accesses in range -/

namespace Access

theorem byte?_of_lt {data : List UInt8} {place : Nat} (h : place < data.length) :
    byte? data place = some data[place] :=
  List.getElem?_eq_getElem h

theorem slice?_of_le {data : List UInt8} {first last : Nat} (h : first ≤ last + 1)
    (hle : last + 1 ≤ data.length) :
    slice? data first last = some ((data.drop first).take (last + 1 - first)) := by
  rw [slice?, if_pos ⟨h, hle⟩, List.drop_take]

theorem bit?_of_lt {byte : UInt8} {place : Nat} (h : place < 8) :
    bit? byte place = some (byte.toNat.testBit place) :=
  if_pos h

end Access

open Access

/-! ## Computations that do not get stuck -/

namespace Checked

variable {ε ε' α β : Type} {x : Checked ε α} {y : Except ε α}

theorem found_bind (a : α) (k : α → Checked ε β) :
    (liftM (some a) : Checked ε α) >>= k = k a := rfl

theorem run_bind (h : x.run = some y) {k : α → Checked ε β} {k' : α → Except ε β}
    (hk : ∀ a, (k a).run = some (k' a)) : (x >>= k).run = some (y >>= k') := by
  rw [ExceptT.run_bind, h]
  cases y with
  | error e => rfl
  | ok a => exact hk a

theorem run_map (h : x.run = some y) (f : α → β) : (f <$> x).run = some (y.map f) := by
  rw [ExceptT.run_map, h]
  rfl

theorem run_adapt (h : x.run = some y) (f : ε → ε') :
    (ExceptT.adapt f x).run = some (y.mapError f) := by
  change x.run.map (Except.mapError f) = some (y.mapError f)
  rw [h]
  rfl

/-- If no place of a row gets stuck, neither does the row. -/
theorem mapM_range {n : Nat} {k : Nat → Checked ε α} {f : Fin n → α}
    (h : ∀ i : Fin n, k i = pure (f i)) : (List.range n).mapM k = pure (List.ofFn f) := by
  rw [← List.map_coe_finRange_eq_range, List.mapM_map, List.ofFn_eq_map, ← List.mapM_pure]
  exact congrArg (List.mapM · _) (funext h)

/-! Behind a check of the length only those payloads are left that pass it. -/

section Require

variable {p : Packet} {n : Nat} {f : FrameError → ε}

theorem run_require_mapError_bind {k : List UInt8 → Checked ε β}
    {k' : { data : List UInt8 // n ≤ data.length } → Except ε β}
    (hk : ∀ hle, (k p.data).run = some (k' ⟨p.data, hle⟩)) :
    (liftM ((p.require n).mapError f) >>= k).run = some ((p.payload n).mapError f >>= k') := by
  rw [Packet.require]
  rcases Nat.lt_or_ge p.data.length n with hlt | hle
  · rw [Packet.payload_of_lt hlt]
    rfl
  · rw [Packet.payload_of_le hle]
    exact hk hle

theorem run_require_bind {k : List UInt8 → Checked FrameError β}
    {k' : { data : List UInt8 // n ≤ data.length } → Except FrameError β}
    (hk : ∀ hle, (k p.data).run = some (k' ⟨p.data, hle⟩)) :
    (liftM (p.require n) >>= k).run = some (p.payload n >>= k') := by
  have hid : ∀ {α} (y : Except FrameError α), y.mapError id = y := fun y => by cases y <;> rfl
  have h := run_require_mapError_bind (f := id) hk
  rwa [hid, hid] at h

end Require

end Checked

/-! ## Relay banks -/

namespace RelayBank

variable (bank : RelayBank) (p : Packet)

theorem run_readLevelsChecked : (bank.readLevelsChecked p).run = some (bank.readLevels p) := by
  have hlength := bank.length_channels
  rw [readLevelsChecked, readLevels, hlength]
  refine Checked.run_require_bind fun hle => ?_
  rw [slice?_of_le (Nat.le_add_left 1 _) hle, Checked.found_bind, Nat.add_sub_cancel]
  rfl

theorem run_readMaskChecked : (bank.readMaskChecked p).run = some (bank.readMask p) := by
  have hlength := bank.length_channels
  rw [readMaskChecked, readMask, hlength]
  refine Checked.run_require_bind fun hle => congrArg ExceptT.run (Checked.mapM_range fun i => ?_)
  have hmask : maskOffset + i.val / 8 < p.data.length := by omega
  rw [byte?_of_lt hmask, Checked.found_bind, bit?_of_lt (Nat.mod_lt _ (by decide)),
    Checked.found_bind]

theorem run_decodeChecked : (bank.decodeChecked p).run = some (bank.decode p) := by
  have hlevels := Checked.run_map
    (Checked.run_adapt (bank.run_readLevelsChecked p) Refusal.malformed) bank.store
  have hmask := Checked.run_map
    (Checked.run_adapt (bank.run_readMaskChecked p) Refusal.malformed) bank.store
  unfold decodeChecked decode
  cases p.command with
  | statusOfChannels => exact hlevels
  | levelOfChannels => exact hlevels
  | singleChannelControl => exact hmask
  | statusOfScene => rfl
  | floorHeatingStatus => rfl
  | other code => rfl

/-- The number of a channel leads to its place. -/
theorem getElem?_channels {i : UInt8} (hone : 1 ≤ i) (hle : i ≤ bank.size) :
    bank.channels[i.toNat - 1]? = some (bank.channel i) := by
  rw [UInt8.le_iff_toNat_le] at hone hle
  have hplace : i.toNat - 1 < bank.channels.length := by
    rw [bank.length_channels]
    have hone' : 1 ≤ i.toNat := hone
    omega
  rw [channel_eq bank hone, List.getElem?_eq_getElem hplace, Option.join_some]

theorem channel_of_out_of_bounds {i : UInt8} (h : ¬ (1 ≤ i ∧ i ≤ bank.size)) :
    bank.channel i = none := by
  cases hstate : bank.channel i with
  | none => rfl
  | some state => exact absurd (bounds_of_channel hstate) h

/-- Counted in bytes, the channels are those that are counted in numbers of any size, also if there
are 255 of them. -/
theorem map_toNat_channelsOn :
    bank.channelsOn.map UInt8.toNat
      = (List.range' 1 bank.size.toNat).filter fun n =>
          bank.channels[n - 1]? = some (some .on) := by
  rw [channelsOn, List.range'_eq_map_range, List.filter_map, List.filter_map, List.map_map]
  refine (List.map_congr_left fun place hplace => ?_).trans
    (congrArg _ (List.filter_congr fun place hplace => ?_))
  · obtain ⟨i, hi, -, -⟩ := bank.exists_channel (List.mem_range.mp (List.mem_filter.mp hplace).1)
    simp only [Function.comp_apply, ← hi, UInt8.ofNat_toNat]
    rw [hi, Nat.add_comm]
  · obtain ⟨i, hi, hone, hle⟩ := bank.exists_channel (List.mem_range.mp hplace)
    have hslot := bank.getElem?_channels hone hle
    simp only [Function.comp_apply, Nat.add_comm 1 place, ← hi, UInt8.ofNat_toNat, hslot,
      Option.some.injEq]

end RelayBank

/-! ## Dimmer banks -/

namespace DimmerBank

variable (bank : DimmerBank) (p : Packet)

theorem run_levelAtChecked {data : List UInt8} {offset : Nat} (h : offset < data.length) :
    (levelAtChecked data offset).run = some (levelAt data offset h) := by
  rw [levelAtChecked, byte?_of_lt h, Checked.found_bind]
  rfl

-- without a check of the length there may be no level to look up
example : (levelAtChecked [50] 1).run = none := rfl

theorem run_decodeReportChecked :
    (bank.decodeReportChecked p).run = some (bank.decodeReport p) := by
  rw [decodeReportChecked, decodeReport]
  refine Checked.run_require_bind fun hle => ?_
  refine Checked.run_bind (run_levelAtChecked (by omega)) fun first => ?_
  refine Checked.run_bind (run_levelAtChecked (by omega)) fun second => ?_
  refine Checked.run_bind (run_levelAtChecked (by omega)) fun third => ?_
  exact Checked.run_bind (run_levelAtChecked (by omega)) fun fourth => rfl

/-- The number of a channel is one more than its place. -/
theorem Channel.at?_place (c : Channel) :
    ∃ place, minus? c.toByte 1 = some place ∧ Channel.at? place.toNat = some c := by
  cases c <;> exact ⟨_, rfl, rfl⟩

theorem run_decodeControlChecked :
    (bank.decodeControlChecked p).run = some (bank.decodeControl p) := by
  rw [decodeControlChecked, decodeControl]
  refine Checked.run_require_mapError_bind fun hle => ?_
  rw [byte?_of_lt (by omega), Checked.found_bind]
  dsimp only
  split
  · rename_i hbounds
    obtain ⟨c, hc⟩ := Channel.exists_toByte hbounds.1 hbounds.2
    obtain ⟨place, hplace, hat⟩ := c.at?_place
    rw [← hc, Channel.ofByte?_eq_some_iff.mpr rfl]
    refine Checked.run_bind (Checked.run_adapt (run_levelAtChecked (by omega)) _) fun level => ?_
    rw [hplace, Checked.found_bind, hat, Checked.found_bind]
    rfl
  · rename_i hbounds
    rw [Channel.ofByte?_of_out_of_bounds hbounds]
    rfl

theorem run_decodeChecked : (bank.decodeChecked p).run = some (bank.decode p) := by
  have hreport := Checked.run_adapt (bank.run_decodeReportChecked p) Refusal.malformed
  unfold decodeChecked decode
  cases p.command with
  | statusOfChannels => exact hreport
  | levelOfChannels => exact hreport
  | singleChannelControl => exact bank.run_decodeControlChecked p
  | statusOfScene => rfl
  | floorHeatingStatus => rfl
  | other code => rfl

theorem getElem?_channels {i : UInt8} (hone : 1 ≤ i) (hle : i ≤ 4) :
    bank.channels[i.toNat - 1]? = some (bank.channel i) := by
  obtain ⟨c, rfl⟩ := Channel.exists_toByte hone hle
  rw [channel_toByte]
  cases c <;> rfl

theorem channel_of_out_of_bounds {i : UInt8} (h : ¬ (1 ≤ i ∧ i ≤ 4)) : bank.channel i = none := by
  rw [channel, Channel.ofByte?_of_out_of_bounds h, Option.bind_none]

end DimmerBank

/-! ## Thermostats -/

namespace Thermostat

variable (t : Thermostat) (p : Packet)

theorem run_decodeStatusChecked :
    (t.decodeStatusChecked p).run = some (t.decodeStatus p) := by
  rw [decodeStatusChecked, decodeStatus]
  refine Checked.run_require_bind fun hle => ?_
  have hbyte : ∀ i (h : i < 9), byte? p.data i = some p.data[i] :=
    fun i h => byte?_of_lt (by omega)
  simp only [hbyte, Nat.reduceLT, Checked.found_bind]
  rfl

theorem run_decodeChecked : (t.decodeChecked p).run = some (t.decode p) := by
  rw [decodeChecked, decode]
  refine Checked.run_require_mapError_bind fun hle => ?_
  rw [byte?_of_lt (by omega), Checked.found_bind]
  dsimp only
  by_cases hchannel : p.data[0] = t.channel
  · have hstatus := Checked.run_adapt (t.run_decodeStatusChecked p) Refusal.malformed
    simp only [hchannel, ne_eq, not_true, if_false]
    cases p.command with
    | floorHeatingStatus => exact hstatus
    | statusOfChannels => rfl
    | levelOfChannels => rfl
    | singleChannelControl => rfl
    | statusOfScene => rfl
    | other code => rfl
  · rw [if_pos hchannel, if_pos hchannel]
    rfl

end Thermostat

/-! ## Devices -/

theorem Channels.run_decodeChecked (model : Model) (s : Channels) (p : Packet) :
    (s.decodeChecked model p).run = some (s.decode model p) := by
  cases s with
  | relay bank => exact Checked.run_map (Checked.run_adapt (bank.run_decodeChecked p) _) _
  | dimmer bank => exact Checked.run_map (Checked.run_adapt (bank.run_decodeChecked p) _) _
  | floorHeating t => exact Checked.run_map (Checked.run_adapt (t.run_decodeChecked p) _) _
  | unsupported => rfl

namespace Device

theorem decodeChecked_eq (d : Device) (p : Packet) : d.decodeChecked p = some (d.decode p) := by
  rw [decodeChecked, Channels.run_decodeChecked]
  unfold decode
  cases d.channels.decode d.model p with
  | ok after => rfl
  | error diagnostic => rfl

/-! ## The main statement -/

/-- No codec gets stuck, in whatever state it is and whatever packet it is given: with every access
looked up, it ends as it does without. A number of a channel leads to a place in the bank, and any
other number to no state. The channels that are on are counted without passing the last byte. -/
theorem no_access_out_of_range :
    (∀ (bank : RelayBank) (p : Packet), (bank.decodeChecked p).run = some (bank.decode p)) ∧
    (∀ (bank : DimmerBank) (p : Packet), (bank.decodeChecked p).run = some (bank.decode p)) ∧
    (∀ (t : Thermostat) (p : Packet), (t.decodeChecked p).run = some (t.decode p)) ∧
    (∀ (d : Device) (p : Packet), d.decodeChecked p = some (d.decode p)) ∧
    (∀ (bank : RelayBank) (i : UInt8),
      (1 ≤ i → i ≤ bank.size → bank.channels[i.toNat - 1]? = some (bank.channel i)) ∧
      (¬ (1 ≤ i ∧ i ≤ bank.size) → bank.channel i = none)) ∧
    (∀ (bank : DimmerBank) (i : UInt8),
      (1 ≤ i → i ≤ 4 → bank.channels[i.toNat - 1]? = some (bank.channel i)) ∧
      (¬ (1 ≤ i ∧ i ≤ 4) → bank.channel i = none)) ∧
    (∀ bank : RelayBank, bank.channelsOn.map UInt8.toNat
      = (List.range' 1 bank.size.toNat).filter fun n =>
          bank.channels[n - 1]? = some (some .on)) :=
  ⟨RelayBank.run_decodeChecked, DimmerBank.run_decodeChecked, Thermostat.run_decodeChecked,
    decodeChecked_eq, fun bank _ => ⟨bank.getElem?_channels, bank.channel_of_out_of_bounds⟩,
    fun bank _ => ⟨bank.getElem?_channels, bank.channel_of_out_of_bounds⟩,
    RelayBank.map_toNat_channelsOn⟩

end Device
end Fieldbus
