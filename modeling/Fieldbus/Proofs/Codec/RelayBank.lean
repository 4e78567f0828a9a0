import Fieldbus.Proofs.Codec.Tracked
import Fieldbus.RelayBank

/-!
# Frames of relay banks
-/
namespace Fieldbus.RelayBank

variable {bank after : RelayBank} {p : Packet} {states : List Power} {t : Tracked RelayBank}
  {e : FrameError}

/-! ## Storing the channels -/

theorem store_exact (bank : RelayBank) (states : List Power) : (bank.store states).Exact bank := by
  refine Iff.trans (Tracked.changed_putAll bank.channels states) (not_congr ?_)
  constructor
  · intro h
    cases bank
    simp only [store, RelayBank.mk.injEq, true_and]
    exact h
  · intro h
    exact congrArg RelayBank.channels h

/-- A bank is known by its size and its channels, one by one. -/
theorem store_eq_iff {f : Nat → Option Power} (hlength : states.length = bank.size.toNat)
    (hstates : ∀ i < bank.size.toNat, states[i]? = f i) :
    (bank.store states).state = after ↔
      after.size = bank.size ∧ ∀ i < bank.size.toNat, after.channels[i]? = (f i).map some := by
  have hchannels : (bank.store states).state.channels = states.map some :=
    Tracked.state_putAll (bank.length_channels.trans hlength.symm)
  constructor
  · rintro rfl
    refine ⟨rfl, fun i hi => ?_⟩
    rw [hchannels, List.getElem?_map, hstates i hi]
  · rintro ⟨hsize, hafter⟩
    have hsame : (bank.store states).state.channels = after.channels := by
      apply List.ext_getElem?
      intro i
      rw [hchannels, List.getElem?_map]
      by_cases hi : i < bank.size.toNat
      · rw [hstates i hi, hafter i hi]
      · have hout : after.channels.length ≤ i := by
          rw [after.length_channels, hsize]
          omega
        rw [List.getElem?_eq_none (by omega), List.getElem?_eq_none hout]
        rfl
    cases after
    simp only [store, RelayBank.mk.injEq] at hsize hsame ⊢
    exact ⟨hsize.symm, hsame⟩

/-! ## Reading the channels -/

/-- A payload is read channel by channel, once it has so many bytes. -/
structure Reads (bank : RelayBank) (p : Packet) (required : Nat) (f : Nat → Option Power)
    (read : Except FrameError (List Power)) : Prop where
  short : p.data.length < required → read = .error (.shortPayload p.command required p.data.length)
  long : required ≤ p.data.length → ∃ states, read = .ok states ∧
    states.length = bank.size.toNat ∧ ∀ i < bank.size.toNat, states[i]? = f i

/-- The state of a channel in a level report. Channels are counted from zero here, so the level
stands one byte further on. -/
def levelIn (p : Packet) (i : Nat) : Option Power :=
  p.data[i + 1]?.map .ofLevel

/-- The state of a channel in a control reply. -/
def bitIn (p : Packet) (i : Nat) : Option Power :=
  p.data[maskOffset + i / 8]?.map fun mask => .ofBool (mask.toNat.testBit (i % 8))

theorem reads_levels (bank : RelayBank) (p : Packet) :
    Reads bank p (bank.size.toNat + 1) (levelIn p) (bank.readLevels p) := by
  constructor
  · intro h
    simp [readLevels, Packet.payload_of_lt h, bind, Except.bind]
  · intro h
    simp only [readLevels, Packet.payload_of_le h, bind, Except.bind, pure, Except.pure]
    refine ⟨_, rfl, ?_, fun i hi => ?_⟩
    · simp only [List.length_map, List.length_take, List.length_drop]
      omega
    · rw [List.getElem?_map, List.getElem?_take_of_lt hi, List.getElem?_drop, Nat.add_comm 1 i]
      rfl

theorem reads_mask (bank : RelayBank) (p : Packet) :
    Reads bank p (maskOffset + (bank.size.toNat + 7) / 8) (bitIn p) (bank.readMask p) := by
  constructor
  · intro h
    simp [readMask, Packet.payload_of_lt h, bind, Except.bind]
  · intro h
    simp only [readMask, Packet.payload_of_le h, bind, Except.bind, pure, Except.pure]
    refine ⟨_, rfl, List.length_ofFn, fun i hi => ?_⟩
    have hmask : maskOffset + i / 8 < p.data.length := by omega
    simp [bitIn, hi, List.getElem?_eq_getElem hmask]

namespace Reads

variable {required : Nat} {f : Nat → Option Power} {read : Except FrameError (List Power)}

theorem stores_iff (h : Reads bank p required f read) :
    (∃ states, read = .ok states ∧ (bank.store states).state = after) ↔
      required ≤ p.data.length ∧ after.size = bank.size ∧
        ∀ i < bank.size.toNat, after.channels[i]? = (f i).map some := by
  rcases Nat.lt_or_ge p.data.length required with hlt | hle
  · rw [h.short hlt]
    simp [Nat.not_le_of_lt hlt]
  · obtain ⟨states, hread, hlength, hstates⟩ := h.long hle
    rw [hread, and_iff_right hle, ← store_eq_iff hlength hstates]
    simp

theorem error_iff (h : Reads bank p required f read) :
    read = .error e ↔
      p.data.length < required ∧ .shortPayload p.command required p.data.length = e := by
  rcases Nat.lt_or_ge p.data.length required with hlt | hle
  · rw [h.short hlt, Except.error.injEq, and_iff_right hlt]
  · obtain ⟨states, hread, _, _⟩ := h.long hle
    rw [hread]
    simp [Nat.not_lt_of_le hle]

end Reads

/-! ## Whole frames -/

/-- What a bank takes: level reports and control replies that it can read. -/
theorem decode_eq_ok_iff :
    bank.decode p = .ok t ↔
      (p.command.isLevelReport = true ∧
        ∃ states, bank.readLevels p = .ok states ∧ bank.store states = t) ∨
      (p.command = .singleChannelControl ∧
        ∃ states, bank.readMask p = .ok states ∧ bank.store states = t) := by
  unfold decode
  cases p.command <;> simp [Command.isLevelReport, map_mapError_eq_ok]

theorem decode_malformed_iff :
    bank.decode p = .error (.malformed e) ↔
      (p.command.isLevelReport = true ∧ bank.readLevels p = .error e) ∨
      (p.command = .singleChannelControl ∧ bank.readMask p = .error e) := by
  unfold decode
  cases p.command <;> simp [Command.isLevelReport, map_mapError_eq_error]

theorem decode_exact (h : bank.decode p = .ok t) : t.Exact bank := by
  rcases decode_eq_ok_iff.mp h with ⟨_, states, _, rfl⟩ | ⟨_, states, _, rfl⟩
  · exact store_exact bank states
  · exact store_exact bank states

/-- What a frame makes of a bank, channel by channel. -/
inductive Applies (p : Packet) (bank after : RelayBank) : Prop
  | levels : p.command.isLevelReport = true → bank.size.toNat + 1 ≤ p.data.length →
      after.size = bank.size →
      (∀ i < bank.size.toNat, after.channels[i]? = (levelIn p i).map some) →
      Applies p bank after
  | mask : p.command = .singleChannelControl →
      maskOffset + (bank.size.toNat + 7) / 8 ≤ p.data.length →
      after.size = bank.size →
      (∀ i < bank.size.toNat, after.channels[i]? = (bitIn p i).map some) →
      Applies p bank after

theorem applies_iff : bank.Applies p after ↔ ∃ t, bank.decode p = .ok t ∧ t.state = after := by
  constructor
  · rintro (⟨hc, hle, hsize, hafter⟩ | ⟨hc, hle, hsize, hafter⟩)
    · obtain ⟨states, hread, hstore⟩ := (reads_levels bank p).stores_iff.mpr ⟨hle, hsize, hafter⟩
      exact ⟨_, decode_eq_ok_iff.mpr (.inl ⟨hc, states, hread, rfl⟩), hstore⟩
    · obtain ⟨states, hread, hstore⟩ := (reads_mask bank p).stores_iff.mpr ⟨hle, hsize, hafter⟩
      exact ⟨_, decode_eq_ok_iff.mpr (.inr ⟨hc, states, hread, rfl⟩), hstore⟩
  · rintro ⟨t, ht, rfl⟩
    rcases decode_eq_ok_iff.mp ht with ⟨hc, states, hread, rfl⟩ | ⟨hc, states, hread, rfl⟩
    · obtain ⟨hle, hsize, hafter⟩ := (reads_levels bank p).stores_iff.mp ⟨states, hread, rfl⟩
      exact .levels hc hle hsize hafter
    · obtain ⟨hle, hsize, hafter⟩ := (reads_mask bank p).stores_iff.mp ⟨states, hread, rfl⟩
      exact .mask hc hle hsize hafter

/-- A frame has nothing more to make of a bank that it was applied to. -/
theorem Applies.again (h : bank.Applies p after) : after.Applies p after := by
  cases h with
  | levels hc hle hsize hafter => exact .levels hc (hsize ▸ hle) rfl (hsize ▸ hafter)
  | mask hc hle hsize hafter => exact .mask hc (hsize ▸ hle) rfl (hsize ▸ hafter)

theorem Applies.size_eq (h : bank.Applies p after) : after.size = bank.size := by
  cases h with
  | levels _ _ hsize _ => exact hsize
  | mask _ _ hsize _ => exact hsize

/-- What is wrong with a frame that a bank would take otherwise. -/
inductive Faulty (p : Packet) (bank : RelayBank) : FrameError → Prop
  | levels : p.command.isLevelReport = true → p.data.length < bank.size.toNat + 1 →
      Faulty p bank (.shortPayload p.command (bank.size.toNat + 1) p.data.length)
  | mask : p.command = .singleChannelControl →
      p.data.length < maskOffset + (bank.size.toNat + 7) / 8 →
      Faulty p bank
        (.shortPayload p.command (maskOffset + (bank.size.toNat + 7) / 8) p.data.length)

theorem faulty_iff : bank.Faulty p e ↔ bank.decode p = .error (.malformed e) := by
  rw [decode_malformed_iff, (reads_levels bank p).error_iff, (reads_mask bank p).error_iff]
  constructor
  · rintro (⟨hc, hlt⟩ | ⟨hc, hlt⟩)
    · exact .inl ⟨hc, hlt, rfl⟩
    · exact .inr ⟨hc, hlt, rfl⟩
  · rintro (⟨hc, hlt, rfl⟩ | ⟨hc, hlt, rfl⟩)
    · exact .levels hc hlt
    · exact .mask hc hlt

end Fieldbus.RelayBank
