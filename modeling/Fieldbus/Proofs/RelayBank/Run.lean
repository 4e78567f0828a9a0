import Fieldbus.Proofs.Codec.RelayBank
import Fieldbus.Proofs.Codec.Reply
import Mathlib.Algebra.Order.Floor.Div
import Mathlib.GroupTheory.GroupAction.Ring

/-!
# What a relay bank shows after a run of packets

Every frame that a bank takes tells of all its channels, so the bank shows the last one it has taken.
Channels are counted from one here, as their numbers are; the codec counts places from zero.
-/
namespace Fieldbus.RelayBank

variable {bank other : RelayBank} {model : Model} {p : Packet} {size i : UInt8}

/-! ## Channels -/

theorem channel_eq (bank : RelayBank) (hi : 1 ≤ i) :
    bank.channel i = bank.channels[i.toNat - 1]?.join := by
  have hne : i ≠ 0 := by
    rintro rfl
    exact absurd hi (by decide)
  rw [channel, if_neg hne]

theorem channel_unknown (size i : UInt8) : (unknown size).channel i = none := by
  rw [channel]
  split
  · rfl
  · rw [unknown, List.getElem?_replicate]
    split <;> rfl

/-- Only the numbers of channels have a state. -/
theorem bounds_of_channel {state : Power} (h : bank.channel i = some state) :
    1 ≤ i ∧ i ≤ bank.size := by
  rw [channel] at h
  split at h
  · cases h
  · rename_i hne
    have hpos : i.toNat ≠ 0 := fun hzero => hne (UInt8.toNat_inj.mp hzero)
    have hplace : i.toNat - 1 < bank.size.toNat := by
      by_contra hout
      rw [List.getElem?_eq_none (by rw [bank.length_channels]; omega)] at h
      cases h
    rw [UInt8.le_iff_toNat_le, UInt8.le_iff_toNat_le]
    exact ⟨Nat.one_le_iff_ne_zero.mpr hpos, by omega⟩

/-- Each place in a bank is a channel with a number of its own. -/
theorem exists_channel (bank : RelayBank) {place : Nat} (h : place < bank.size.toNat) :
    ∃ i : UInt8, i.toNat = place + 1 ∧ 1 ≤ i ∧ i ≤ bank.size := by
  have hbyte : bank.size.toNat < 256 := bank.size.toNat_lt
  have htoNat : (UInt8.ofNat (place + 1)).toNat = place + 1 :=
    UInt8.toNat_ofNat_of_lt' (show place + 1 < 256 by omega)
  refine ⟨.ofNat (place + 1), htoNat, ?_, ?_⟩
  · rw [UInt8.le_iff_toNat_le, htoNat]
    exact Nat.le_add_left 1 place
  · rw [UInt8.le_iff_toNat_le, htoNat]
    exact h

/-- A bank is known by its channels. -/
theorem eq_of_channel (hsize : bank.size = other.size)
    (h : ∀ i, 1 ≤ i → i ≤ bank.size → bank.channel i = other.channel i) : bank = other := by
  have hchannels : bank.channels = other.channels := by
    refine List.ext_getElem (by rw [bank.length_channels, other.length_channels, hsize])
      fun place hplace hplace' => ?_
    obtain ⟨i, hi, hone, hle⟩ := bank.exists_channel (bank.length_channels ▸ hplace)
    have hsame := h i hone hle
    simpa [channel_eq _ hone, hi, hplace, hplace'] using hsame
  cases bank
  cases other
  simp only [RelayBank.mk.injEq] at hsize hchannels ⊢
  exact ⟨hsize, hchannels⟩

/-! ## One packet -/

/-- What a bank of so many channels takes: level reports with a level for each channel, and control
replies with a mask byte for each eight of them. -/
def Readable (size : UInt8) (p : Packet) : Prop :=
  (p.command.isLevelReport = true ∧ size.toNat + 1 ≤ p.data.length) ∨
  (p.command = .singleChannelControl ∧ 4 + size.toNat ⌈/⌉ 8 ≤ p.data.length)

instance (size : UInt8) (p : Packet) : Decidable (Readable size p) :=
  inferInstanceAs (Decidable (_ ∨ _))

theorem maskLength_eq (size : UInt8) :
    4 + size.toNat ⌈/⌉ 8 = maskOffset + (size.toNat + 7) / 8 := rfl

/-- A packet tells of a channel that it is on. -/
inductive TurnsOn (p : Packet) (i : Nat) : Prop
  | level {byte : UInt8} : p.command.isLevelReport = true → p.data[i]? = some byte → byte ≠ 0 →
      TurnsOn p i
  | bit {byte : UInt8} : p.command = .singleChannelControl →
      p.data[4 + (i - 1) / 8]? = some byte → byte.toNat.testBit ((i - 1) % 8) = true → TurnsOn p i

theorem turnsOn_iff_level (hc : p.command.isLevelReport = true) {i : Nat} {byte : UInt8}
    (hbyte : p.data[i]? = some byte) : TurnsOn p i ↔ byte ≠ 0 := by
  constructor
  · rintro (⟨_, hother, hne⟩ | ⟨hc', _, _⟩)
    · rwa [Option.some.inj (hbyte.symm.trans hother)]
    · exact absurd hc (Packet.not_isLevelReport hc')
  · exact .level hc hbyte

theorem turnsOn_iff_bit (hc : p.command = .singleChannelControl) {i : Nat} {byte : UInt8}
    (hbyte : p.data[4 + (i - 1) / 8]? = some byte) :
    TurnsOn p i ↔ byte.toNat.testBit ((i - 1) % 8) = true := by
  constructor
  · rintro (⟨hc', _, _⟩ | ⟨_, hother, hbit⟩)
    · exact absurd hc' (Packet.not_isLevelReport hc)
    · rwa [Option.some.inj (hbyte.symm.trans hother)]
  · exact .bit hc hbyte

theorem ofLevel_eq_on_iff {byte : UInt8} : Power.ofLevel byte = .on ↔ byte ≠ 0 := by
  unfold Power.ofLevel
  split <;> simp [*]

theorem ofBool_eq_on_iff {b : Bool} : Power.ofBool b = .on ↔ b = true := by
  cases b <;> simp [Power.ofBool]

section Answer

variable (model)

theorem accepted_iff (bank : RelayBank) (p : Packet) :
    (bank.answer model p).Accepted ↔ Readable bank.size p := by
  rw [answer, Reply.accepted_of_iff, Readable, maskLength_eq]
  constructor
  · rintro ⟨t, ht⟩
    rcases decode_eq_ok_iff.mp ht with ⟨hc, states, hread, _⟩ | ⟨hc, states, hread, _⟩
    · exact .inl ⟨hc, ((reads_levels bank p).stores_iff.mp ⟨states, hread, rfl⟩).1⟩
    · exact .inr ⟨hc, ((reads_mask bank p).stores_iff.mp ⟨states, hread, rfl⟩).1⟩
  · rintro (⟨hc, hle⟩ | ⟨hc, hle⟩)
    · obtain ⟨states, hread, _⟩ := (reads_levels bank p).long hle
      exact ⟨_, decode_eq_ok_iff.mpr (.inl ⟨hc, states, hread, rfl⟩)⟩
    · obtain ⟨states, hread, _⟩ := (reads_mask bank p).long hle
      exact ⟨_, decode_eq_ok_iff.mpr (.inr ⟨hc, states, hread, rfl⟩)⟩

theorem applies_answer (h : Readable bank.size p) :
    bank.Applies p (bank.answer model p).state :=
  applies_iff.mpr (Reply.taken_of_accepted ((accepted_iff model bank p).mpr h))

theorem state_of_not_readable (h : ¬ Readable bank.size p) : (bank.answer model p).state = bank :=
  Reply.state_of_not_accepted (mt (accepted_iff model bank p).mp h)

theorem size_answer (bank : RelayBank) (p : Packet) :
    (bank.answer model p).state.size = bank.size := by
  by_cases h : Readable bank.size p
  · exact (applies_answer model h).size_eq
  · rw [state_of_not_readable model h]

theorem result_iff (bank : RelayBank) (p : Packet) :
    (bank.answer model p).result = .ok true ↔
      ∃ i, 1 ≤ i ∧ i ≤ bank.size ∧ (bank.answer model p).state.channel i ≠ bank.channel i := by
  have hsize := size_answer model bank p
  simp only [← and_assoc]
  exact Reply.result_of_iff_exists (fun t ht => decode_exact ht) fun hsame =>
    eq_of_channel hsize fun i hone hle => hsame i ⟨hone, hsize ▸ hle⟩

/-- A frame that is taken settles every channel. -/
theorem channel_answer (h : Readable bank.size p) (hone : 1 ≤ i) (hle : i ≤ bank.size) :
    ∃ state, (bank.answer model p).state.channel i = some state ∧
      (state = .on ↔ TurnsOn p i.toNat) := by
  rw [UInt8.le_iff_toNat_le] at hle
  have hone' : 1 ≤ i.toNat := UInt8.le_iff_toNat_le.mp hone
  rw [channel_eq _ hone]
  cases applies_answer model h with
  | levels hc hlen _ hchannels =>
      have hbyte : p.data[i.toNat]? = some p.data[i.toNat] := List.getElem?_eq_getElem (by omega)
      rw [hchannels (i.toNat - 1) (by omega), levelIn, Nat.sub_add_cancel hone', hbyte]
      exact ⟨_, rfl, ofLevel_eq_on_iff.trans (turnsOn_iff_level hc hbyte).symm⟩
  | mask hc hlen _ hchannels =>
      rw [maskOffset] at hlen
      have hmask : 4 + (i.toNat - 1) / 8 < p.data.length := by omega
      have hbyte : p.data[4 + (i.toNat - 1) / 8]? = some p.data[4 + (i.toNat - 1) / 8] :=
        List.getElem?_eq_getElem hmask
      rw [hchannels (i.toNat - 1) (by omega), bitIn, maskOffset, hbyte]
      exact ⟨_, rfl, ofBool_eq_on_iff.trans (turnsOn_iff_bit hc hbyte).symm⟩

end Answer

/-! ## Runs -/

/-- The bank after some packets. -/
def run (model : Model) (bank : RelayBank) (packets : List Packet) : RelayBank :=
  Reply.run (answer model) bank packets

/-- What a bank of so many channels shows of the last frame that it has taken. -/
structure Shows (size : UInt8) (last : Option Packet) (bank : RelayBank) : Prop where
  size_eq : bank.size = size
  unknown : last = none → ∀ i, bank.channel i = none
  known : ∀ p, last = some p → ∀ i, 1 ≤ i → i ≤ size →
    ∃ state, bank.channel i = some state ∧ (state = .on ↔ TurnsOn p i.toNat)

theorem shows_run (size : UInt8) (model : Model) (packets : List Packet) :
    Shows size (packets.filter fun p => Readable size p).getLast?
      ((unknown size).run model packets) := by
  refine Reply.run_last (fun last bank p h hp => ?_) (fun last bank p h hp => ?_) ?_ packets
  · obtain rfl := h.size_eq
    refine ⟨size_answer model bank p, (nomatch ·), fun p' hp' i hone hle => ?_⟩
    obtain rfl := Option.some.inj hp'
    exact channel_answer model hp hone hle
  · obtain rfl := h.size_eq
    rwa [state_of_not_readable model hp]
  · exact ⟨rfl, fun _ => channel_unknown size, fun _ => (nomatch ·)⟩

/-! ## The main statement -/

/-- In every state that a bank reaches it takes the frames that are long enough, and no others. A
level report or control reply that is too short is refused with the length that is needed. Until a
frame is taken all channels are unknown, and from then on they are as the last one taken says. A
frame is told to change something exactly if it changes a channel. -/
theorem run_shows_last_frame (size : UInt8) (model : Model) (packets : List Packet) :
    (∀ p, (((unknown size).run model packets).answer model p).Accepted ↔ Readable size p) ∧
    (∀ p, p.command.isLevelReport = true → p.data.length < size.toNat + 1 →
      ((unknown size).run model packets).answer model p
        = ⟨(unknown size).run model packets,
            .error (.shortPayload p.command (size.toNat + 1) p.data.length), []⟩) ∧
    (∀ p, p.command = .singleChannelControl → p.data.length < 4 + size.toNat ⌈/⌉ 8 →
      ((unknown size).run model packets).answer model p
        = ⟨(unknown size).run model packets,
            .error (.shortPayload p.command (4 + size.toNat ⌈/⌉ 8) p.data.length), []⟩) ∧
    (packets.filter (fun p => Readable size p) = [] →
      ∀ i, ((unknown size).run model packets).channel i = none) ∧
    (∀ last, (packets.filter fun p => Readable size p).getLast? = some last →
      ∀ i, 1 ≤ i → i ≤ size →
        ∃ state, ((unknown size).run model packets).channel i = some state ∧
          (state = .on ↔ TurnsOn last i.toNat)) ∧
    (∀ p, (((unknown size).run model packets).answer model p).result = .ok true ↔
      ∃ i, 1 ≤ i ∧ i ≤ size ∧
        (((unknown size).run model packets).answer model p).state.channel i
          ≠ ((unknown size).run model packets).channel i) := by
  have hshows := shows_run size model packets
  generalize (unknown size).run model packets = bank at hshows ⊢
  obtain rfl := hshows.size_eq
  refine ⟨accepted_iff model bank, fun p hc hlt => ?_, fun p hc hlt => ?_, fun hnil => ?_,
    hshows.known, result_iff model bank⟩
  · rw [answer, faulty_iff.mp (.levels hc hlt)]
    rfl
  · rw [maskLength_eq] at hlt ⊢
    rw [answer, faulty_iff.mp (.mask hc hlt)]
    rfl
  · exact hshows.unknown (by rw [hnil]; rfl)

end Fieldbus.RelayBank
