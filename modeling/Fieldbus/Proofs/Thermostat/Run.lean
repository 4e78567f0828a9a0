import Fieldbus.Proofs.Codec.Thermostat
import Mathlib.Data.List.Induction

/-!
# What a thermostat shows after a run of packets

A thermostat that has taken packets shows the last of them, but for its mode: a frame may tell no
mode, and the last one that was told stays. The temperature that is followed is never stale all the
same, because every frame stores all setpoints anew. What is needed for it is that setpoints come
from bytes: a byte is stored as it is, whatever was stored before.
-/
namespace Fieldbus.Thermostat

open Decimal (Binary64)

variable {t after : Thermostat} {p : Packet} {c : UInt8}

/-! ## Temperatures that come from bytes -/

/-- All temperatures that are known are numbers of bytes. -/
structure Bytewise (t : Thermostat) : Prop where
  get : ∀ which x, t.get which = some x → ∃ byte, x = .ofByte byte
  current : ∀ x, t.current = some x → ∃ byte, x = .ofByte byte

theorem bytewise_unknown (c : UInt8) : (unknown c).Bytewise := by
  constructor
  · intro which x h
    cases which <;> cases h
  · intro x h
    cases h

theorem slot_beq_iff {a b : Option Binary64} (ha : ∀ x, a = some x → ∃ byte, x = .ofByte byte)
    (hb : ∀ x, b = some x → ∃ byte, x = .ofByte byte) : (a == b) = true ↔ a = b := by
  cases a with
  | none => cases b <;> simp
  | some x =>
      cases b with
      | none => simp
      | some y =>
          obtain ⟨first, rfl⟩ := ha x rfl
          obtain ⟨second, rfl⟩ := hb y rfl
          rw [Option.some_beq_some, Option.some.injEq]
          constructor
          · intro h
            rw [Binary64.eq_of_ofByte_beq h]
          · intro h
            rw [h]
            exact Binary64.ofByte_beq_self second

/-- Among temperatures of bytes there is no NaN, and only one zero. -/
theorem Bytewise.same_iff {a b : Thermostat} (ha : a.Bytewise) (hb : b.Bytewise) :
    a.same b = true ↔ a = b := by
  have hget : ∀ which, (a.get which == b.get which) = true ↔ a.get which = b.get which :=
    fun which => slot_beq_iff (ha.get which) (hb.get which)
  have hnormal := hget .normal
  have hday := hget .day
  have hnight := hget .night
  have haway := hget .away
  simp only [Thermostat.get] at hnormal hday hnight haway
  simp only [same, Bool.and_eq_true, beq_iff_eq, hnormal, hday, hnight, haway,
    slot_beq_iff ha.current hb.current]
  cases a
  cases b
  simp [and_assoc]

theorem put_ofByte {slot : Option Binary64} (h : ∀ x, slot = some x → ∃ byte, x = .ofByte byte)
    (byte : UInt8) : (Tracked.put slot (.ofByte byte)).state = some (.ofByte byte) := by
  unfold Tracked.put
  split
  · rename_i hsame
    cases slot with
    | none => cases hsame
    | some x =>
        obtain ⟨other, rfl⟩ := h x rfl
        rw [Binary64.eq_of_ofByte_beq (a := other) (b := byte) hsame]
  · rfl

namespace Taken

variable {report : Report}

theorem get_eq (h : Taken report t after) (ht : t.Bytewise) (which : Setpoint) :
    after.get which = some (.ofByte (report.temperature which)) := by
  rw [h.get, put_ofByte (ht.get which)]

theorem current_eq (h : Taken report t after) (ht : t.Bytewise) {which : Setpoint}
    (hactive : after.active? = some which) :
    after.current = some (.ofByte (report.temperature which)) := by
  rw [h.followed which hactive, put_ofByte ht.current]

theorem bytewise (h : Taken report t after) (ht : t.Bytewise) : after.Bytewise := by
  constructor
  · intro which x hx
    rw [h.get_eq ht] at hx
    exact ⟨_, (Option.some.inj hx).symm⟩
  · intro x hx
    cases hactive : after.active? with
    | none =>
        rw [h.unfollowed hactive] at hx
        exact ht.current x hx
    | some which =>
        rw [h.current_eq ht hactive] at hx
        exact ⟨_, (Option.some.inj hx).symm⟩

end Taken

theorem Bytewise.decode {u : Tracked Thermostat} (ht : t.Bytewise) (h : t.decode p = .ok u) :
    u.state.Bytewise := by
  obtain ⟨report, -, -, -, -, htaken⟩ := applies_iff.mpr ⟨u, h, rfl⟩
  exact htaken.bytewise ht

/-! ## Status frames -/

/-- The bytes of a status frame by what they mean. -/
structure Status where
  unit : UInt8
  mode : UInt8
  normal : UInt8
  day : UInt8
  night : UInt8
  away : UInt8
  slot : UInt8

/-- The order of the bytes. The first is the channel, the second means nothing, and neither do any
bytes behind the last. -/
def Status.ofPayload? : List UInt8 → Option Status
  | _ :: _ :: unit :: mode :: normal :: day :: night :: away :: slot :: _ =>
    some { unit, mode, normal, day, night, away, slot }
  | _ => none

def Status.temperature (status : Status) : Setpoint → UInt8
  | .normal => status.normal
  | .day => status.day
  | .night => status.night
  | .away => status.away

/-- The byte of the setpoint that a mode follows. -/
def Status.followed (status : Status) : Mode → UInt8
  | .normal => status.normal
  | .day => status.day
  | .night => status.night
  | .away => status.away
  | .timer => if status.slot = 1 then status.night else status.day

/-- A packet that a thermostat of the channel takes. -/
structure Accepted (c : UInt8) (p : Packet) : Prop where
  command : p.command = .floorHeatingStatus
  length : 9 ≤ p.data.length
  channel : p.data[0]? = some c

instance (c : UInt8) (p : Packet) : Decidable (Accepted c p) :=
  decidable_of_iff (p.command = .floorHeatingStatus ∧ 9 ≤ p.data.length ∧ p.data[0]? = some c)
    ⟨fun ⟨hc, hle, hzero⟩ => ⟨hc, hle, hzero⟩, fun ⟨hc, hle, hzero⟩ => ⟨hc, hle, hzero⟩⟩

/-- The mode byte of a packet, if it names a mode. -/
def modeByte? (p : Packet) : Option UInt8 :=
  p.data[3]?.filter fun byte => 1 ≤ byte ∧ byte ≤ 5

theorem exists_status {data : List UInt8} (h : 9 ≤ data.length) :
    ∃ status, Status.ofPayload? data = some status := by
  match data, h with
  | _ :: _ :: _ :: _ :: _ :: _ :: _ :: _ :: _ :: _, _ => exact ⟨_, rfl⟩

/-- A payload tells what its bytes mean. -/
theorem report_of_status {data : List UInt8} {status : Status}
    (h : Status.ofPayload? data = some status) :
    Report.ofPayload data = ⟨.ofByte status.unit, (Mode.ofByte status.mode).toOption,
      .ofByte status.slot, status.temperature⟩ := by
  match data, h with
  | _ :: _ :: _ :: _ :: _ :: _ :: _ :: _ :: _ :: _, rfl =>
      simp only [Report.ofPayload, Report.mk.injEq]
      refine ⟨rfl, rfl, rfl, funext fun which => ?_⟩
      cases which <;> rfl

theorem toByte_ofByte (byte : UInt8) :
    (Mode.ofByte byte).toOption.map Mode.toByte
      = (some byte).filter fun byte => 1 ≤ byte ∧ byte ≤ 5 := by
  revert byte
  apply Decimal.forall_byte
  decide +kernel

theorem toByte_mode_ofPayload (h : 9 ≤ p.data.length) :
    (Report.ofPayload p.data).mode.map Mode.toByte = modeByte? p := by
  have hthird : p.data[3]? = some (p.data.getD 3 0) := by
    rw [List.getElem?_eq_getElem (by omega), List.getD_eq_getElem]
  rw [modeByte?, hthird, ← toByte_ofByte]
  rfl

/-- The setpoint that is selected is the one that the mode follows. -/
theorem exists_selected (status : Status) (mode : Mode) :
    ∃ which, Setpoint.selected? (some mode) (some (.ofByte status.slot)) = some which ∧
      status.temperature which = status.followed mode := by
  cases mode with
  | normal => exact ⟨.normal, rfl, rfl⟩
  | day => exact ⟨.day, rfl, rfl⟩
  | night => exact ⟨.night, rfl, rfl⟩
  | away => exact ⟨.away, rfl, rfl⟩
  | timer =>
      by_cases h : status.slot = 1
      · exact ⟨.night, by rw [TimerSlot.ofByte, if_pos h]; rfl, (if_pos h).symm⟩
      · exact ⟨.day, by rw [TimerSlot.ofByte, if_neg h]; rfl, (if_neg h).symm⟩

/-! ## One packet -/

/-- The thermostat after a packet. A packet that is refused changes nothing. -/
def hear (t : Thermostat) (p : Packet) : Thermostat :=
  match t.decode p with
  | .ok u => u.state
  | .error _ => t

theorem decode_of_accepted (h : Accepted t.channel p) :
    t.decode p = .ok (t.take (.ofPayload p.data)) :=
  decode_eq_ok_iff.mpr ⟨h.channel, h.command, decodeStatus_of_le h.length⟩

theorem exists_decode_iff : (∃ u, t.decode p = .ok u) ↔ Accepted t.channel p := by
  constructor
  · rintro ⟨u, hdecode⟩
    obtain ⟨hzero, hc, hstatus⟩ := decode_eq_ok_iff.mp hdecode
    exact ⟨hc, (decodeStatus_eq_ok_iff.mp hstatus).1, hzero⟩
  · exact fun h => ⟨_, decode_of_accepted h⟩

theorem hear_of_accepted (h : Accepted t.channel p) :
    Taken (.ofPayload p.data) t (t.hear p) := by
  rw [hear, decode_of_accepted h]
  exact taken_take _ t

theorem hear_of_not_accepted (h : ¬ Accepted t.channel p) : t.hear p = t := by
  unfold hear
  split
  · rename_i u hdecode
    exact absurd (exists_decode_iff.mp ⟨u, hdecode⟩) h
  · rfl

/-- A temperature is known, and is the number of a byte. -/
def Holds (slot : Option Binary64) (byte : UInt8) : Prop :=
  ∃ x, slot = some x ∧ x.isFinite = true ∧ x.value = byte.toNat

theorem holds_ofByte (byte : UInt8) : Holds (some (.ofByte byte)) byte :=
  ⟨_, rfl, (Binary64.fields_ofByte byte).1, Binary64.value_ofByte byte⟩

/-- What a thermostat shows of a status frame. Its mode may be older than the frame. -/
structure Shows (status : Status) (t : Thermostat) : Prop where
  unit : t.unit = some (if status.unit = 1 then .fahrenheit else .celsius)
  timer : t.timer = some (if status.slot = 1 then .night else .day)
  normal : Holds t.normal status.normal
  day : Holds t.day status.day
  night : Holds t.night status.night
  away : Holds t.away status.away
  followed : ∀ mode, t.mode = some mode → Holds t.current (status.followed mode)

theorem Taken.shows {status : Status} (h : Taken (.ofPayload p.data) t after)
    (hstatus : Status.ofPayload? p.data = some status) (ht : t.Bytewise) : Shows status after := by
  rw [report_of_status hstatus] at h
  have hholds : ∀ which, Holds (after.get which) (status.temperature which) := by
    intro which
    rw [h.get_eq ht]
    exact holds_ofByte _
  refine ⟨h.unit, h.timer, hholds .normal, hholds .day, hholds .night, hholds .away,
    fun mode hmode => ?_⟩
  obtain ⟨which, hselected, hfollowed⟩ := exists_selected status mode
  have hactive : after.active? = some which := by
    rw [active?, hmode, h.timer]
    exact hselected
  rw [h.current_eq ht hactive, ← hfollowed]
  exact holds_ofByte _

/-! ## Runs -/

/-- The thermostat after some packets. -/
def run (t : Thermostat) (packets : List Packet) : Thermostat :=
  packets.foldl hear t

/-- What a thermostat keeps of the packets that it took. -/
structure Follows (c : UInt8) (taken : List Packet) (t : Thermostat) : Prop where
  channel : t.channel = c
  bytewise : t.Bytewise
  fresh : taken = [] → t = unknown c
  mode : t.mode.map Mode.toByte = (taken.filterMap modeByte?).getLast?
  current : t.current = none ↔ t.mode = none
  shows : ∀ last, taken.getLast? = some last →
    ∃ status, Status.ofPayload? last.data = some status ∧ Shows status t

theorem follows_unknown (c : UInt8) : Follows c [] (unknown c) :=
  ⟨rfl, bytewise_unknown c, fun _ => rfl, rfl, iff_of_true rfl rfl, nofun⟩

namespace Follows

variable {taken : List Packet}

theorem hear_accepted (h : Follows c taken t) (hp : Accepted c p) :
    Follows c (taken ++ [p]) (t.hear p) := by
  obtain ⟨status, hstatus⟩ := exists_status hp.length
  obtain rfl := h.channel
  have htaken := hear_of_accepted hp
  have hshows := htaken.shows hstatus h.bytewise
  refine ⟨htaken.channel, htaken.bytewise h.bytewise, fun hnil => ?_, ?_, ?_, fun last hlast => ?_⟩
  · simp at hnil
  · have hbyte := toByte_mode_ofPayload hp.length
    rw [htaken.mode, List.filterMap_append]
    cases hmode : (Report.ofPayload p.data).mode with
    | none =>
        rw [hmode] at hbyte
        rw [List.filterMap_cons_none hbyte.symm, List.filterMap_nil, List.append_nil]
        exact h.mode
    | some mode =>
        rw [hmode] at hbyte
        rw [List.filterMap_cons_some hbyte.symm, List.filterMap_nil, List.getLast?_concat]
        rfl
  · constructor
    · intro hcurrent
      refine Option.eq_none_iff_forall_ne_some.mpr fun mode hmode => ?_
      obtain ⟨x, hx, -⟩ := hshows.followed mode hmode
      rw [hcurrent] at hx
      cases hx
    · intro hmode
      have hactive : (t.hear p).active? = none := by
        rw [active?, hmode]
        rfl
      rw [htaken.mode, Option.or_eq_none_iff] at hmode
      rw [htaken.unfollowed hactive, h.current]
      exact hmode.2
  · rw [List.getLast?_concat] at hlast
    obtain rfl := Option.some.inj hlast
    exact ⟨status, hstatus, hshows⟩

theorem run (c : UInt8) (packets : List Packet) :
    Follows c (packets.filter fun p => Accepted c p) ((unknown c).run packets) := by
  induction packets using List.reverseRecOn with
  | nil => exact follows_unknown c
  | append_singleton packets p ih =>
      rw [Thermostat.run, List.foldl_append, List.foldl_cons, List.foldl_nil, List.filter_append]
      by_cases hp : Accepted c p
      · rw [List.filter_cons_of_pos (by simpa using hp), List.filter_nil]
        exact ih.hear_accepted hp
      · rw [List.filter_cons_of_neg (by simpa using hp), List.filter_nil, List.append_nil]
        have hsame := hear_of_not_accepted (t := (unknown c).run packets) (ih.channel ▸ hp)
        rw [Thermostat.run] at hsame ih
        rw [hsame]
        exact ih

end Follows

/-! ## The main statement -/

/-- After any packets a thermostat shows the last one that it took, and the mode of the last one
that told a mode. The current temperature is known if the mode is, and is then the setpoint of that
mode in the last frame, however old the mode is. -/
theorem run_unknown (c : UInt8) (packets : List Packet) :
    (packets.filter (fun p => Accepted c p) = [] → (unknown c).run packets = unknown c) ∧
    (∀ last, (packets.filter fun p => Accepted c p).getLast? = some last →
      ∃ status, Status.ofPayload? last.data = some status ∧
        Shows status ((unknown c).run packets)) ∧
    ((unknown c).run packets).channel = c ∧
    ((unknown c).run packets).mode.map Mode.toByte
      = ((packets.filter fun p => Accepted c p).filterMap modeByte?).getLast? ∧
    (((unknown c).run packets).current = none ↔ ((unknown c).run packets).mode = none) := by
  have h := Follows.run c packets
  exact ⟨h.fresh, h.shows, h.channel, h.mode, h.current⟩

end Fieldbus.Thermostat
