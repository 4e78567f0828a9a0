import Fieldbus.DimmerBank
import Fieldbus.Proofs.Codec.Tracked

/-!
# Frames of dimmer banks
-/
namespace Fieldbus

theorem Percent.ofByte_eq_ok_iff {byte : UInt8} {level : Percent} :
    Percent.ofByte byte = .ok level ↔ byte = level.value := by
  unfold ofByte
  split
  · rw [Except.ok.injEq]
    constructor
    · rintro rfl
      rfl
    · rintro rfl
      rfl
  · rename_i h
    simp only [reduceCtorEq, false_iff]
    rintro rfl
    exact h level.value_le

theorem Percent.ofByte_eq_error_iff {byte : UInt8} {e : ValueError} :
    Percent.ofByte byte = .error e ↔ ¬ byte ≤ 100 ∧ .outOfRange 0 100 byte.toNat = e := by
  unfold ofByte
  split
  · rename_i h
    simp [h]
  · rename_i h
    simp [h]

namespace DimmerBank

variable {bank after : DimmerBank} {p : Packet} {t : Tracked DimmerBank} {level : Percent}
  {e : FrameError}

/-! ## Channels -/

def Channel.toByte : Channel → UInt8
  | first => 1
  | second => 2
  | third => 3
  | fourth => 4

theorem Channel.ofByte?_eq_some_iff {byte : UInt8} {c : Channel} :
    Channel.ofByte? byte = some c ↔ byte = c.toByte := by
  constructor
  · intro h
    unfold ofByte? at h
    split at h
    · cases h; assumption
    · split at h
      · cases h; assumption
      · split at h
        · cases h; assumption
        · split at h
          · cases h; assumption
          · cases h
  · rintro rfl
    cases c <;> rfl

theorem Channel.toByte_injective {c other : Channel} (h : c.toByte = other.toByte) : c = other := by
  have hc : Channel.ofByte? c.toByte = some c := ofByte?_eq_some_iff.mpr rfl
  have hother : Channel.ofByte? c.toByte = some other := ofByte?_eq_some_iff.mpr h
  exact Option.some.inj (hc.symm.trans hother)

theorem Channel.bounds (c : Channel) : 1 ≤ c.toByte ∧ c.toByte ≤ 4 := by
  cases c <;> decide

theorem Channel.exists_place {n : Nat} (hone : 1 ≤ n) (hle : n ≤ 4) :
    ∃ c : Channel, c.toByte.toNat = n := by
  obtain rfl | rfl | rfl | rfl : n = 1 ∨ n = 2 ∨ n = 3 ∨ n = 4 := by omega
  · exact ⟨.first, rfl⟩
  · exact ⟨.second, rfl⟩
  · exact ⟨.third, rfl⟩
  · exact ⟨.fourth, rfl⟩

theorem Channel.exists_toByte {byte : UInt8} (hone : 1 ≤ byte) (hle : byte ≤ 4) :
    ∃ c : Channel, c.toByte = byte := by
  rw [UInt8.le_iff_toNat_le] at hone hle
  obtain ⟨c, hc⟩ := exists_place hone hle
  exact ⟨c, UInt8.toNat_inj.mp hc⟩

theorem Channel.ofByte?_of_out_of_bounds {byte : UInt8} (h : ¬ (1 ≤ byte ∧ byte ≤ 4)) :
    Channel.ofByte? byte = none := by
  cases hbyte : Channel.ofByte? byte with
  | none => rfl
  | some c =>
      obtain rfl := ofByte?_eq_some_iff.mp hbyte
      exact absurd c.bounds h

theorem channel_toByte (bank : DimmerBank) (c : Channel) : bank.channel c.toByte = bank.get c := by
  cases c <;> rfl

theorem eq_of_get {a b : DimmerBank} (h : ∀ c, a.get c = b.get c) : a = b := by
  cases a
  cases b
  have hfirst := h .first
  have hsecond := h .second
  have hthird := h .third
  have hfourth := h .fourth
  simp only [get] at hfirst hsecond hthird hfourth
  subst hfirst hsecond hthird hfourth
  rfl

/-! ## Storing levels -/

theorem get_store (bank : DimmerBank) (level : Percent) (c other : Channel) :
    (bank.store level c).state.get other = if other = c then some level else bank.get other := by
  cases c <;> cases other <;> simp [store, Tracked.map, Tracked.put_of_lawful, get]

theorem changed_store (bank : DimmerBank) (level : Percent) (c : Channel) :
    (bank.store level c).changed = true ↔ bank.get c ≠ some level := by
  cases c <;> simp [store, Tracked.map, Tracked.put_of_lawful, get]

theorem store_exact (bank : DimmerBank) (level : Percent) (c : Channel) :
    (bank.store level c).Exact bank := by
  refine (changed_store bank level c).trans (not_congr ⟨fun h => eq_of_get fun other => ?_, ?_⟩)
  · rw [get_store]
    split
    · rename_i he
      rw [he, h]
    · rfl
  · intro h
    rw [← h, get_store, if_pos rfl]

/-- Stores a level in every channel. -/
def storeAll (bank : DimmerBank) (levels : Channel → Percent) : Tracked DimmerBank :=
  (bank.store (levels .first) .first).andThen (·.store (levels .second) .second)
    |>.andThen (·.store (levels .third) .third)
    |>.andThen (·.store (levels .fourth) .fourth)

theorem get_storeAll (bank : DimmerBank) (levels : Channel → Percent) (c : Channel) :
    (bank.storeAll levels).state.get c = some (levels c) := by
  cases c <;> simp [storeAll, Tracked.andThen, get_store]

theorem changed_storeAll (bank : DimmerBank) (levels : Channel → Percent) :
    (bank.storeAll levels).changed = true ↔ ∃ c, bank.get c ≠ some (levels c) := by
  -- no channel is stored twice, so each store sees the level that the bank had at first
  simp only [storeAll, Tracked.andThen, Bool.or_eq_true, changed_store, get_store,
    reduceCtorEq, if_false]
  constructor
  · rintro (((h | h) | h) | h)
    · exact ⟨_, h⟩
    · exact ⟨_, h⟩
    · exact ⟨_, h⟩
    · exact ⟨_, h⟩
  · rintro ⟨c, h⟩
    cases c <;> simp [h]

theorem storeAll_exact (bank : DimmerBank) (levels : Channel → Percent) :
    (bank.storeAll levels).Exact bank := by
  refine (changed_storeAll bank levels).trans ?_
  constructor
  · rintro ⟨c, h⟩ he
    exact h (he ▸ get_storeAll bank levels c)
  · intro h
    refine Classical.not_forall.mp fun hall => h (eq_of_get fun c => ?_)
    rw [get_storeAll, hall c]

/-! ## Whole frames -/

theorem levelAt_eq_ok_iff {data : List UInt8} {offset : Nat} (h : offset < data.length) :
    levelAt data offset h = .ok level ↔ data[offset]? = some level.value := by
  rw [levelAt, mapError_eq_ok, Percent.ofByte_eq_ok_iff, List.getElem?_eq_getElem h,
    Option.some.injEq]

theorem levelAt_eq_error_iff {data : List UInt8} {offset : Nat} (h : offset < data.length) :
    levelAt data offset h = .error e ↔
      ∃ byte, data[offset]? = some byte ∧ ¬ byte ≤ 100 ∧ .percent offset byte = e := by
  rw [levelAt, mapError_eq_error, List.getElem?_eq_getElem h]
  simp [Percent.ofByte_eq_error_iff]

theorem decodeReport_of_short (h : p.data.length < 5) :
    bank.decodeReport p = .error (.shortPayload p.command 5 p.data.length) := by
  simp [decodeReport, Packet.payload_of_lt h, bind, Except.bind]

theorem decodeReport_eq_ok_iff :
    bank.decodeReport p = .ok t ↔
      5 ≤ p.data.length ∧ ∃ levels : Channel → Percent,
        (∀ c, p.data[c.toByte.toNat]? = some (levels c).value) ∧ bank.storeAll levels = t := by
  by_cases h : 5 ≤ p.data.length
  · rw [and_iff_right h]
    simp only [decodeReport, Packet.payload_of_le h, bind_eq_ok, Except.ok.injEq, exists_eq_left',
      levelAt_eq_ok_iff, pure, Except.pure]
    constructor
    · rintro ⟨first, hfirst, second, hsecond, third, hthird, fourth, hfourth, ht⟩
      refine ⟨fun | .first => first | .second => second | .third => third | .fourth => fourth,
        ?_, ht⟩
      intro c
      cases c
      · exact hfirst
      · exact hsecond
      · exact hthird
      · exact hfourth
    · rintro ⟨levels, hlevels, ht⟩
      exact ⟨_, hlevels .first, _, hlevels .second, _, hlevels .third, _, hlevels .fourth, ht⟩
  · rw [decodeReport_of_short (by omega)]
    simp [h]

theorem decodeControl_of_short (h : p.data.length < 3) :
    bank.decodeControl p = .error (.malformed (.shortPayload p.command 3 p.data.length)) := by
  simp [decodeControl, Packet.payload_of_lt h, mapError_error, bind, Except.bind]

theorem decodeControl_of_unsupported (h : 3 ≤ p.data.length) {byte : UInt8}
    (hbyte : p.data[0]? = some byte) (hout : ¬ (1 ≤ byte ∧ byte ≤ 4)) :
    bank.decodeControl p = .error (.unsupportedChannel p.command byte) := by
  have hzero : p.data[0]? = some p.data[0] := List.getElem?_eq_getElem (by omega)
  obtain rfl := Option.some.inj (hbyte.symm.trans hzero)
  simp [decodeControl, Packet.payload_of_le h, mapError_ok,
    Channel.ofByte?_of_out_of_bounds hout, bind, Except.bind, throw, throwThe, MonadExceptOf.throw]

theorem decodeControl_eq_ok_iff :
    bank.decodeControl p = .ok t ↔
      3 ≤ p.data.length ∧ ∃ c level, p.data[0]? = some (Channel.toByte c) ∧
        p.data[2]? = some level.value ∧ bank.store level c = t := by
  by_cases h : 3 ≤ p.data.length
  · rw [and_iff_right h]
    have hzero : p.data[0]? = some p.data[0] := List.getElem?_eq_getElem (by omega)
    simp only [decodeControl, bind_eq_ok, mapError_eq_ok, Packet.payload_of_le h,
      Except.ok.injEq, exists_eq_left', hzero, Option.some.injEq]
    cases hc : Channel.ofByte? p.data[0] with
    | none =>
        simp only [throw, throwThe, MonadExceptOf.throw, reduceCtorEq, false_iff]
        rintro ⟨c, level, hbyte, _⟩
        rw [Channel.ofByte?_eq_some_iff.mpr hbyte] at hc
        cases hc
    | some c =>
        obtain hbyte := Channel.ofByte?_eq_some_iff.mp hc
        simp only [bind_eq_ok, mapError_eq_ok, levelAt_eq_ok_iff, pure, Except.pure,
          Except.ok.injEq]
        constructor
        · rintro ⟨level, hlevel, ht⟩
          exact ⟨c, level, hbyte, hlevel, ht⟩
        · rintro ⟨other, level, hother, hlevel, ht⟩
          obtain rfl : c = other :=
            Option.some.inj (hc.symm.trans (Channel.ofByte?_eq_some_iff.mpr hother))
          exact ⟨level, hlevel, ht⟩
  · rw [decodeControl_of_short (by omega)]
    simp [h]

/-- What a bank takes: level reports and control replies that it can read. -/
theorem decode_eq_ok_iff :
    bank.decode p = .ok t ↔
      (p.command.isLevelReport = true ∧ bank.decodeReport p = .ok t) ∨
      (p.command = .singleChannelControl ∧ bank.decodeControl p = .ok t) := by
  unfold decode
  cases p.command <;> simp [Command.isLevelReport, mapError_eq_ok]

theorem decode_of_unsupported (hc : p.command = .singleChannelControl) (h : 3 ≤ p.data.length)
    {byte : UInt8} (hbyte : p.data[0]? = some byte) (hout : ¬ (1 ≤ byte ∧ byte ≤ 4)) :
    bank.decode p = .error (.unsupportedChannel p.command byte) := by
  have hcontrol : bank.decode p = bank.decodeControl p := by
    unfold decode
    rw [hc]
  rw [hcontrol]
  exact decodeControl_of_unsupported h hbyte hout

theorem decode_malformed_iff :
    bank.decode p = .error (.malformed e) ↔
      (p.command.isLevelReport = true ∧ bank.decodeReport p = .error e) ∨
      (p.command = .singleChannelControl ∧ bank.decodeControl p = .error (.malformed e)) := by
  unfold decode
  cases p.command <;> simp [Command.isLevelReport, mapError_eq_error]

theorem decode_exact (h : bank.decode p = .ok t) : t.Exact bank := by
  rcases decode_eq_ok_iff.mp h with ⟨_, h⟩ | ⟨_, h⟩
  · obtain ⟨_, levels, _, rfl⟩ := decodeReport_eq_ok_iff.mp h
    exact storeAll_exact bank levels
  · obtain ⟨_, c, level, _, _, rfl⟩ := decodeControl_eq_ok_iff.mp h
    exact store_exact bank level c

/-- What a frame makes of a bank, channel by channel. -/
inductive Applies (p : Packet) (bank after : DimmerBank) : Prop
  | report (levels : Channel → Percent) : p.command.isLevelReport = true → 5 ≤ p.data.length →
      (∀ c, p.data[c.toByte.toNat]? = some (levels c).value) →
      (∀ c, after.get c = some (levels c)) →
      Applies p bank after
  | control (c : Channel) (level : Percent) : p.command = .singleChannelControl →
      3 ≤ p.data.length → p.data[0]? = some c.toByte → p.data[2]? = some level.value →
      after.get c = some level → (∀ other, other ≠ c → after.get other = bank.get other) →
      Applies p bank after

theorem applies_iff : bank.Applies p after ↔ ∃ t, bank.decode p = .ok t ∧ t.state = after := by
  constructor
  · rintro (⟨levels, hc, hle, hlevels, hafter⟩ | ⟨c, level, hc, hle, hzero, htwo, hafter, hothers⟩)
    · refine ⟨_, decode_eq_ok_iff.mpr (.inl ⟨hc, decodeReport_eq_ok_iff.mpr
        ⟨hle, levels, hlevels, rfl⟩⟩), eq_of_get fun c => ?_⟩
      rw [get_storeAll, hafter]
    · refine ⟨_, decode_eq_ok_iff.mpr (.inr ⟨hc, decodeControl_eq_ok_iff.mpr
        ⟨hle, c, level, hzero, htwo, rfl⟩⟩), eq_of_get fun other => ?_⟩
      rw [get_store]
      split
      · rename_i heq
        rw [heq, hafter]
      · rename_i hne
        exact (hothers other hne).symm
  · rintro ⟨t, ht, rfl⟩
    rcases decode_eq_ok_iff.mp ht with ⟨hc, h⟩ | ⟨hc, h⟩
    · obtain ⟨hle, levels, hlevels, rfl⟩ := decodeReport_eq_ok_iff.mp h
      exact .report levels hc hle hlevels (get_storeAll bank levels)
    · obtain ⟨hle, c, level, hzero, htwo, rfl⟩ := decodeControl_eq_ok_iff.mp h
      refine .control c level hc hle hzero htwo ?_ fun other hne => ?_
      · rw [get_store, if_pos rfl]
      · rw [get_store, if_neg hne]

/-- A frame has nothing more to make of a bank that it was applied to. -/
theorem Applies.again (h : bank.Applies p after) : after.Applies p after := by
  cases h with
  | report levels hc hle hlevels hafter => exact .report levels hc hle hlevels hafter
  | control c level hc hle hzero htwo hafter _ =>
      exact .control c level hc hle hzero htwo hafter fun _ _ => rfl

/-- What is wrong with a frame that a bank would take otherwise. Of several levels that are out of
range the first counts. -/
inductive Faulty (p : Packet) : FrameError → Prop
  | report : p.command.isLevelReport = true → p.data.length < 5 →
      Faulty p (.shortPayload p.command 5 p.data.length)
  | level (c : Channel) (byte : UInt8) : p.command.isLevelReport = true → 5 ≤ p.data.length →
      p.data[c.toByte.toNat]? = some byte → ¬ byte ≤ 100 →
      (∀ other : Channel, other.toByte < c.toByte →
        ∃ level : Percent, p.data[other.toByte.toNat]? = some level.value) →
      Faulty p (.percent c.toByte.toNat byte)
  | control : p.command = .singleChannelControl → p.data.length < 3 →
      Faulty p (.shortPayload p.command 3 p.data.length)
  | controlLevel (c : Channel) (byte : UInt8) : p.command = .singleChannelControl →
      3 ≤ p.data.length → p.data[0]? = some c.toByte → p.data[2]? = some byte → ¬ byte ≤ 100 →
      Faulty p (.percent 2 byte)

theorem decodeReport_eq_error_iff (h : 5 ≤ p.data.length) :
    bank.decodeReport p = .error e ↔
      ∃ (c : Channel) (byte : UInt8), p.data[c.toByte.toNat]? = some byte ∧ ¬ byte ≤ 100 ∧
        (∀ other : Channel, other.toByte < c.toByte →
          ∃ level : Percent, p.data[other.toByte.toNat]? = some level.value) ∧
        .percent c.toByte.toNat byte = e := by
  simp only [decodeReport, Packet.payload_of_le h, bind_eq_error, Except.ok.injEq, exists_eq_left',
    levelAt_eq_ok_iff, levelAt_eq_error_iff, pure, Except.pure, reduceCtorEq, and_false,
    exists_false, or_false, false_or]
  constructor
  · rintro (⟨byte, hbyte, hout, he⟩ | ⟨first, hfirst, ⟨byte, hbyte, hout, he⟩ |
      ⟨second, hsecond, ⟨byte, hbyte, hout, he⟩ | ⟨third, hthird, ⟨byte, hbyte, hout, he⟩⟩⟩⟩)
    · refine ⟨.first, byte, hbyte, hout, fun other hlt => ?_, he⟩
      cases other <;> exact absurd hlt (by decide)
    · refine ⟨.second, byte, hbyte, hout, fun other hlt => ?_, he⟩
      cases other with
      | first => exact ⟨first, hfirst⟩
      | _ => exact absurd hlt (by decide)
    · refine ⟨.third, byte, hbyte, hout, fun other hlt => ?_, he⟩
      cases other with
      | first => exact ⟨first, hfirst⟩
      | second => exact ⟨second, hsecond⟩
      | _ => exact absurd hlt (by decide)
    · refine ⟨.fourth, byte, hbyte, hout, fun other hlt => ?_, he⟩
      cases other with
      | first => exact ⟨first, hfirst⟩
      | second => exact ⟨second, hsecond⟩
      | third => exact ⟨third, hthird⟩
      | fourth => exact absurd hlt (by decide)
  · rintro ⟨c, byte, hbyte, hout, hearlier, he⟩
    cases c with
    | first => exact .inl ⟨byte, hbyte, hout, he⟩
    | second =>
        obtain ⟨first, hfirst⟩ := hearlier .first (by decide)
        exact .inr ⟨first, hfirst, .inl ⟨byte, hbyte, hout, he⟩⟩
    | third =>
        obtain ⟨first, hfirst⟩ := hearlier .first (by decide)
        obtain ⟨second, hsecond⟩ := hearlier .second (by decide)
        exact .inr ⟨first, hfirst, .inr ⟨second, hsecond, .inl ⟨byte, hbyte, hout, he⟩⟩⟩
    | fourth =>
        obtain ⟨first, hfirst⟩ := hearlier .first (by decide)
        obtain ⟨second, hsecond⟩ := hearlier .second (by decide)
        obtain ⟨third, hthird⟩ := hearlier .third (by decide)
        exact .inr ⟨first, hfirst, .inr ⟨second, hsecond, .inr ⟨third, hthird, byte, hbyte, hout,
          he⟩⟩⟩

theorem decodeControl_malformed_iff (h : 3 ≤ p.data.length) :
    bank.decodeControl p = .error (.malformed e) ↔
      ∃ (c : Channel) (byte : UInt8), p.data[0]? = some c.toByte ∧ p.data[2]? = some byte ∧
        ¬ byte ≤ 100 ∧ .percent 2 byte = e := by
  have hzero : p.data[0]? = some p.data[0] := List.getElem?_eq_getElem (by omega)
  have hpayload : (p.payload 3).mapError Refusal.malformed = .ok ⟨p.data, h⟩ := by
    rw [Packet.payload_of_le h]
    rfl
  simp only [decodeControl, hpayload, bind_eq_error, reduceCtorEq, false_or, Except.ok.injEq,
    exists_eq_left', hzero, Option.some.injEq]
  cases hc : Channel.ofByte? p.data[0] with
  | none =>
      simp only [throw, throwThe, MonadExceptOf.throw, Except.error.injEq, reduceCtorEq, false_iff]
      rintro ⟨c, byte, hbyte, _⟩
      rw [Channel.ofByte?_eq_some_iff.mpr hbyte] at hc
      cases hc
  | some c =>
      have hbyte := Channel.ofByte?_eq_some_iff.mp hc
      simp only [bind_eq_error, mapError_eq_error, levelAt_eq_error_iff, Refusal.malformed.injEq,
        exists_eq_right, pure, Except.pure, reduceCtorEq, and_false, exists_false, or_false]
      constructor
      · rintro ⟨byte, h⟩
        exact ⟨c, byte, hbyte, h⟩
      · rintro ⟨_, byte, _, h⟩
        exact ⟨byte, h⟩

theorem faulty_iff : Faulty p e ↔ bank.decode p = .error (.malformed e) := by
  rw [decode_malformed_iff]
  constructor
  · rintro (⟨hc, hlt⟩ | ⟨c, byte, hc, hle, hbyte, hout, hearlier⟩ | ⟨hc, hlt⟩ |
      ⟨c, byte, hc, hle, hzero, hbyte, hout⟩)
    · exact .inl ⟨hc, decodeReport_of_short hlt⟩
    · exact .inl ⟨hc, (decodeReport_eq_error_iff hle).mpr ⟨c, byte, hbyte, hout, hearlier, rfl⟩⟩
    · exact .inr ⟨hc, decodeControl_of_short hlt⟩
    · exact .inr ⟨hc, (decodeControl_malformed_iff hle).mpr ⟨c, byte, hzero, hbyte, hout, rfl⟩⟩
  · rintro (⟨hc, h⟩ | ⟨hc, h⟩)
    · rcases Nat.lt_or_ge p.data.length 5 with hlt | hle
      · rw [decodeReport_of_short hlt] at h
        obtain rfl := Except.error.inj h
        exact .report hc hlt
      · obtain ⟨c, byte, hbyte, hout, hearlier, rfl⟩ := (decodeReport_eq_error_iff hle).mp h
        exact .level c byte hc hle hbyte hout hearlier
    · rcases Nat.lt_or_ge p.data.length 3 with hlt | hle
      · rw [decodeControl_of_short hlt] at h
        obtain rfl := Refusal.malformed.inj (Except.error.inj h)
        exact .control hc hlt
      · obtain ⟨c, byte, hzero, hbyte, hout, rfl⟩ := (decodeControl_malformed_iff hle).mp h
        exact .controlLevel c byte hc hle hzero hbyte hout

end DimmerBank
end Fieldbus
