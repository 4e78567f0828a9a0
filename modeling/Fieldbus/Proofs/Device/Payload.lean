import Fieldbus.Proofs.Device.Basic

/-!
# What a codec reads of a packet

A codec reads the command and the first bytes of the payload. How many bytes it reads depends on the
command and the family only, and it checks that they are there. So bytes behind them are of no
account once the check has passed, and who sent the packet never is.
-/
namespace Fieldbus

variable {p q : Packet}

/-- A packet with the command and the payload of another one, and maybe more bytes behind. -/
structure Packet.Extends (q p : Packet) : Prop where
  command : q.command = p.command
  data : p.data <+: q.data

namespace Packet.Extends

theorem length_le (h : q.Extends p) : p.data.length ≤ q.data.length :=
  h.data.length_le

theorem getElem?_eq (h : q.Extends p) {i : Nat} (hi : i < p.data.length) :
    q.data[i]? = p.data[i]? := by
  obtain ⟨bytes, hbytes⟩ := h.data
  rw [← hbytes, List.getElem?_append_left hi]

end Packet.Extends

/-! ## Relay banks -/

namespace RelayBank

variable {bank : RelayBank}

theorem Reads.congr {required required' : Nat} {f g : Nat → Option Power}
    {read read' : Except FrameError (List Power)} (h : Reads bank p required f read)
    (h' : Reads bank q required' g read') (hle : required ≤ p.data.length)
    (hle' : required' ≤ q.data.length) (hplace : ∀ i < bank.size.toNat, g i = f i) :
    read' = read := by
  obtain ⟨states, rfl, hlength, hstates⟩ := h.long hle
  obtain ⟨states', rfl, hlength', hstates'⟩ := h'.long hle'
  refine congrArg _ (List.ext_getElem? fun i => ?_)
  by_cases hi : i < bank.size.toNat
  · rw [hstates i hi, hstates' i hi, hplace i hi]
  · rw [List.getElem?_eq_none (by omega), List.getElem?_eq_none (by omega)]

theorem decode_congr (hc : q.command = p.command)
    (hlevels : p.command.isLevelReport = true → bank.readLevels q = bank.readLevels p)
    (hmask : p.command = .singleChannelControl → bank.readMask q = bank.readMask p) :
    bank.decode q = bank.decode p := by
  unfold decode
  rw [hc]
  split
  · rename_i hstatus
    rw [hlevels (by rw [hstatus]; rfl)]
  · rename_i hlevel
    rw [hlevels (by rw [hlevel]; rfl)]
  · rename_i hcontrol
    rw [hmask hcontrol]
  · rfl
  · rfl

theorem decode_of_extends (h : q.Extends p)
    (hlong : ∀ command required actual,
      bank.decode p ≠ .error (.malformed (.shortPayload command required actual))) :
    bank.decode q = bank.decode p := by
  refine decode_congr h.command (fun hc => ?_) fun hc => ?_
  · have hle : bank.size.toNat + 1 ≤ p.data.length :=
      Nat.le_of_not_lt fun hlt => hlong _ _ _ (faulty_iff.mp (.levels hc hlt))
    refine (reads_levels bank p).congr (reads_levels bank q) hle (hle.trans h.length_le) ?_
    intro i hi
    rw [levelIn, levelIn, h.getElem?_eq (by omega)]
  · have hle : maskOffset + (bank.size.toNat + 7) / 8 ≤ p.data.length :=
      Nat.le_of_not_lt fun hlt => hlong _ _ _ (faulty_iff.mp (.mask hc hlt))
    refine (reads_mask bank p).congr (reads_mask bank q) hle (hle.trans h.length_le) ?_
    intro i hi
    rw [bitIn, bitIn, h.getElem?_eq (by omega)]

end RelayBank

/-! ## Dimmer banks -/

namespace DimmerBank

variable {bank : DimmerBank}

theorem levelAt_of_extends (h : q.Extends p) {offset : Nat} (hp : offset < p.data.length)
    (hq : offset < q.data.length) : levelAt q.data offset hq = levelAt p.data offset hp := by
  have hbyte : q.data[offset] = p.data[offset] := (h.data.getElem hp).symm
  rw [levelAt, levelAt, hbyte]

theorem decodeReport_of_extends (h : q.Extends p) (hle : 5 ≤ p.data.length) :
    bank.decodeReport q = bank.decodeReport p := by
  have hle' := hle.trans h.length_le
  simp only [decodeReport, Packet.payload_of_le hle, Packet.payload_of_le hle', bind, Except.bind]
  rw [levelAt_of_extends h (by omega), levelAt_of_extends h (by omega),
    levelAt_of_extends h (by omega), levelAt_of_extends h (by omega)]

theorem decodeControl_of_extends (h : q.Extends p) (hle : 3 ≤ p.data.length) :
    bank.decodeControl q = bank.decodeControl p := by
  have hle' := hle.trans h.length_le
  have hzero : q.data[0] = p.data[0] := (h.data.getElem _).symm
  simp only [decodeControl, Packet.payload_of_le hle, Packet.payload_of_le hle', bind, Except.bind,
    mapError_ok, hzero, h.command]
  rw [levelAt_of_extends h (by omega)]

theorem decode_congr (hc : q.command = p.command)
    (hreport : p.command.isLevelReport = true → bank.decodeReport q = bank.decodeReport p)
    (hcontrol : p.command = .singleChannelControl →
      bank.decodeControl q = bank.decodeControl p) :
    bank.decode q = bank.decode p := by
  unfold decode
  rw [hc]
  split
  · rename_i hstatus
    rw [hreport (by rw [hstatus]; rfl)]
  · rename_i hlevel
    rw [hreport (by rw [hlevel]; rfl)]
  · rename_i hsingle
    exact hcontrol hsingle
  · rfl
  · rfl

theorem decode_of_extends (h : q.Extends p)
    (hlong : ∀ command required actual,
      bank.decode p ≠ .error (.malformed (.shortPayload command required actual))) :
    bank.decode q = bank.decode p := by
  refine decode_congr h.command (fun hc => ?_) fun hc => ?_
  · refine decodeReport_of_extends h (Nat.le_of_not_lt fun hlt => ?_)
    exact hlong _ _ _ (faulty_iff.mp (.report hc hlt))
  · refine decodeControl_of_extends h (Nat.le_of_not_lt fun hlt => ?_)
    exact hlong _ _ _ (faulty_iff.mp (.control hc hlt))

end DimmerBank

/-! ## Thermostats -/

namespace Thermostat

variable {t : Thermostat}

theorem Report.ofPayload_of_extends (h : q.Extends p) (hle : 9 ≤ p.data.length) :
    Report.ofPayload q.data = .ofPayload p.data := by
  have hget : ∀ i < 9, q.data.getD i 0 = p.data.getD i 0 := by
    intro i hi
    rw [List.getD_eq_getElem?_getD, List.getD_eq_getElem?_getD, h.getElem?_eq (by omega)]
  have htemperature : ∀ which : Setpoint,
      q.data.getD which.offset 0 = p.data.getD which.offset 0 := by
    intro which
    cases which <;> exact hget _ (by decide)
  simp only [Report.ofPayload, hget, htemperature, Nat.reduceLT]

theorem decodeStatus_of_extends (h : q.Extends p) (hle : 9 ≤ p.data.length) :
    t.decodeStatus q = t.decodeStatus p := by
  rw [decodeStatus_of_le hle, decodeStatus_of_le (hle.trans h.length_le),
    Report.ofPayload_of_extends h hle]

theorem decode_of_extends (h : q.Extends p)
    (hlong : ∀ command required actual,
      t.decode p ≠ .error (.malformed (.shortPayload command required actual))) :
    t.decode q = t.decode p := by
  -- a frame of another channel, or of another kind, may well be shorter than nine bytes
  have hone : 1 ≤ p.data.length := by
    refine Nat.le_of_not_lt fun hlt => ?_
    exact hlong _ _ _ (faulty_iff.mp (.empty (List.eq_nil_of_length_eq_zero (by omega))))
  have hone' := hone.trans h.length_le
  have hzero : q.data[0] = p.data[0] := (h.data.getElem _).symm
  have hstatus : p.data[0] = t.channel → p.command = .floorHeatingStatus →
      t.decodeStatus q = t.decodeStatus p := by
    intro hchannel hc
    have hbyte : p.data[0]? = some t.channel := by
      rw [List.getElem?_eq_getElem (by omega), hchannel]
    refine decodeStatus_of_extends h (Nat.le_of_not_lt fun hlt => ?_)
    exact hlong _ _ _ (faulty_iff.mp (.status hbyte hc hlt))
  simp only [decode, Packet.payload_of_le hone, Packet.payload_of_le hone', mapError_ok, bind,
    Except.bind, hzero, h.command]
  by_cases hchannel : p.data[0] = t.channel
  · simp only [hchannel, ne_eq, not_true, if_false]
    split
    · rename_i hc
      rw [hstatus hchannel hc]
    · rfl
  · simp only [hchannel, ne_eq, not_false_eq_true, if_true]
    rfl

end Thermostat

/-! ## Devices -/

namespace Channels

theorem decode_of_extends {s : Channels} (h : q.Extends p) (m : Model)
    (hlong : ∀ command required actual,
      ¬ Refuses p s (.malformed (.shortPayload command required actual))) :
    s.decode m q = s.decode m p := by
  cases s with
  | relay bank =>
      have hbank := RelayBank.decode_of_extends h fun command required actual hshort =>
        hlong command required actual (.relay hshort)
      rw [decode, decode, hbank]
  | dimmer bank =>
      have hbank := DimmerBank.decode_of_extends h fun command required actual hshort =>
        hlong command required actual (.dimmer hshort)
      rw [decode, decode, hbank]
  | floorHeating t =>
      have hthermostat := Thermostat.decode_of_extends h fun command required actual hshort =>
        hlong command required actual (.floorHeating hshort)
      rw [decode, decode, hthermostat]
  | unsupported => rw [decode, decode, h.command]

end Channels

namespace Device

theorem decode_of_extends {d : Device} (h : q.Extends p)
    (hlong : ∀ model command required actual, (d.decode p).2
      ≠ some (.refused model (.malformed (.shortPayload command required actual)))) :
    d.decode q = d.decode p := by
  have hchannels : d.channels.decode d.model q = d.channels.decode d.model p := by
    refine Channels.decode_of_extends h d.model fun command required actual hrefuses => ?_
    refine hlong d.model command required actual ?_
    rw [decode_of_error (Channels.decode_eq_error_iff.mpr (.inl ⟨_, hrefuses, rfl⟩))]
  rw [decode, decode, hchannels]

/-! ## The main statement -/

/-- A packet whose payload is not too short does the same with any bytes behind it. A packet does the
same whoever sent it, also one that is too short. -/
theorem decode_reads_frame_only (d : Device) (p : Packet) :
    ((∀ model command required actual, (d.decode p).2
        ≠ some (.refused model (.malformed (.shortPayload command required actual)))) →
      ∀ bytes, d.decode { p with data := p.data ++ bytes } = d.decode p) ∧
    (∀ source address serial, d.decode { p with source, address, serial } = d.decode p) := by
  refine ⟨fun hlong bytes => ?_, fun source address serial => ?_⟩
  · have hextends : Packet.Extends { p with data := p.data ++ bytes } p :=
      ⟨rfl, List.prefix_append p.data bytes⟩
    exact decode_of_extends hextends hlong
  · rfl

end Device
end Fieldbus
