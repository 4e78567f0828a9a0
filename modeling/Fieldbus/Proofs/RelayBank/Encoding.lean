import Fieldbus.Proofs.RelayBank.Run
import Mathlib.Data.Finset.Insert

/-!
# Two ways to tell which relays are on

A level report has a byte for each channel, a control reply a bit. Frames of either kind that tell
the same set of channels are taken alike, whatever else they hold and whatever the bank showed
before.
-/
namespace Fieldbus.RelayBank

variable {bank : RelayBank} {model : Model} {p : Packet} {size i : UInt8} {on : Finset UInt8}

/-! ## The channels that are on -/

theorem mem_channelsOn : i ∈ bank.channelsOn ↔ bank.channel i = some .on := by
  simp only [channelsOn, List.mem_filter, List.mem_map, List.mem_range, decide_eq_true_eq,
    and_iff_right_iff_imp]
  intro hon
  obtain ⟨hone, hle⟩ := bounds_of_channel hon
  rw [UInt8.le_iff_toNat_le] at hone hle
  have hplace : i.toNat - 1 + 1 = i.toNat := Nat.sub_add_cancel hone
  exact ⟨i.toNat - 1, by omega, by rw [hplace, UInt8.ofNat_toNat]⟩

theorem pairwise_channelsOn (bank : RelayBank) : bank.channelsOn.Pairwise (· < ·) := by
  refine List.Pairwise.filter _ (List.pairwise_map.mpr ?_)
  refine List.pairwise_lt_range.imp_of_mem fun {a b} ha hb hlt => ?_
  have hbyte : bank.size.toNat < 256 := bank.size.toNat_lt
  rw [List.mem_range] at ha hb
  rw [UInt8.lt_iff_toNat_lt, UInt8.toNat_ofNat_of_lt' (show a + 1 < 256 by omega),
    UInt8.toNat_ofNat_of_lt' (show b + 1 < 256 by omega)]
  omega

/-! ## Frames that tell a set of channels -/

/-- A control reply whose mask has the bits of the given channels set. The first four bytes, the bits
behind the last channel and further bytes do not matter. -/
structure MaskOf (size : UInt8) (on : Finset UInt8) (p : Packet) : Prop where
  command : p.command = .singleChannelControl
  length : 4 + size.toNat ⌈/⌉ 8 ≤ p.data.length
  bit : ∀ b < size.toNat ⌈/⌉ 8, ∀ k < 8, 8 * b + k + 1 ≤ size.toNat →
    ∃ mask, p.data[4 + b]? = some mask ∧
      (mask.toNat.testBit k = true ↔ UInt8.ofNat (8 * b + k + 1) ∈ on)

/-- A level report with a level other than zero for the given channels. The first byte and further
bytes do not matter. -/
structure LevelsOf (size : UInt8) (on : Finset UInt8) (p : Packet) : Prop where
  command : p.command.isLevelReport = true
  length : size.toNat + 1 ≤ p.data.length
  level : ∀ i, 1 ≤ i → i ≤ size → ∃ level, p.data[i.toNat]? = some level ∧ (level ≠ 0 ↔ i ∈ on)

/-- What the two have in common. -/
structure Tells (size : UInt8) (on : Finset UInt8) (p : Packet) : Prop where
  readable : Readable size p
  turnsOn : ∀ i, 1 ≤ i → i ≤ size → (TurnsOn p i.toNat ↔ i ∈ on)

theorem MaskOf.tells (h : MaskOf size on p) : Tells size on p := by
  refine ⟨.inr ⟨h.command, h.length⟩, fun i hone hle => ?_⟩
  rw [UInt8.le_iff_toNat_le] at hone hle
  have hone' : 1 ≤ i.toNat := hone
  have hbytes := Nat.ceilDiv_eq_add_pred_div size.toNat 8
  have hnumber : 8 * ((i.toNat - 1) / 8) + (i.toNat - 1) % 8 + 1 = i.toNat := by omega
  obtain ⟨mask, hmask, hbit⟩ := h.bit ((i.toNat - 1) / 8) (by omega) ((i.toNat - 1) % 8)
    (Nat.mod_lt _ (by decide)) (by omega)
  rw [hnumber, UInt8.ofNat_toNat] at hbit
  exact (turnsOn_iff_bit h.command hmask).trans hbit

theorem LevelsOf.tells (h : LevelsOf size on p) : Tells size on p := by
  refine ⟨.inl ⟨h.command, h.length⟩, fun i hone hle => ?_⟩
  obtain ⟨level, hlevel, hne⟩ := h.level i hone hle
  exact (turnsOn_iff_level h.command hlevel).trans hne

namespace Tells

section Answer

variable (model)

theorem channel_answer (h : Tells bank.size on p) (hone : 1 ≤ i) (hle : i ≤ bank.size) :
    (bank.answer model p).state.channel i = some (if i ∈ on then .on else .off) := by
  obtain ⟨state, hstate, hon⟩ := RelayBank.channel_answer model h.readable hone hle
  rw [h.turnsOn i hone hle] at hon
  rw [hstate]
  cases state with
  | off =>
      have hnot : i ∉ on := fun hmem => nomatch hon.mpr hmem
      rw [if_neg hnot]
  | on => rw [if_pos (hon.mp rfl)]

theorem mem_channelsOn (h : Tells bank.size on p) (hrange : ∀ i ∈ on, 1 ≤ i ∧ i ≤ bank.size) :
    i ∈ (bank.answer model p).state.channelsOn ↔ i ∈ on := by
  rw [RelayBank.mem_channelsOn]
  constructor
  · intro hon
    obtain ⟨hone, hle⟩ := bounds_of_channel hon
    rw [size_answer] at hle
    rw [h.channel_answer model hone hle] at hon
    by_contra hnot
    rw [if_neg hnot] at hon
    cases hon
  · intro hmem
    obtain ⟨hone, hle⟩ := hrange i hmem
    rw [h.channel_answer model hone hle, if_pos hmem]

/-- All frames that tell a set of channels are answered alike. -/
theorem answer_eq {q : Packet} (hp : Tells bank.size on p) (hq : Tells bank.size on q) :
    bank.answer model p = bank.answer model q := by
  have hsize : (bank.answer model p).state.size = (bank.answer model q).state.size := by
    rw [size_answer, size_answer]
  have hstate : (bank.answer model p).state = (bank.answer model q).state := by
    refine eq_of_channel hsize fun i hone hle => ?_
    rw [size_answer] at hle
    rw [hp.channel_answer model hone hle, hq.channel_answer model hone hle]
  exact Reply.of_eq_of_state (fun _ => decode_exact) (fun _ => decode_exact) hstate
    ((accepted_iff model bank p).mpr hp.readable) ((accepted_iff model bank q).mpr hq.readable)

end Answer

end Tells

/-! ## The main statement -/

/-- A control reply and a level report that tell the same set of channels leave the same bank and
agree on whether it has changed. The channels that are then on are those of the set, in ascending
order, and all others are off. -/
theorem encodings_agree (model : Model) (bank : RelayBank) (on : Finset UInt8)
    (hrange : ∀ i ∈ on, 1 ≤ i ∧ i ≤ bank.size) {control report : Packet}
    (hcontrol : MaskOf bank.size on control) (hreport : LevelsOf bank.size on report) :
    ∃ after changed,
      bank.answer model control = ⟨after, .ok changed, []⟩ ∧
      bank.answer model report = ⟨after, .ok changed, []⟩ ∧
      after.channelsOn.Pairwise (· < ·) ∧
      (∀ i, i ∈ after.channelsOn ↔ i ∈ on) ∧
      (∀ i, 1 ≤ i → i ≤ bank.size → i ∉ on → after.channel i = some .off) := by
  have hsame := hcontrol.tells.answer_eq model hreport.tells
  obtain ⟨⟨changed, hresult⟩, hreported⟩ :=
    (accepted_iff model bank control).mpr hcontrol.tells.readable
  have hanswer : bank.answer model control
      = ⟨(bank.answer model control).state, .ok changed, []⟩ := by
    rw [← hresult, ← hreported]
  refine ⟨_, changed, hanswer, hsame.symm.trans hanswer, pairwise_channelsOn _,
    fun i => hcontrol.tells.mem_channelsOn model hrange, fun i hone hle hnot => ?_⟩
  rw [hcontrol.tells.channel_answer model hone hle, if_neg hnot]

example : ((unknown 8).answer .mr0816 (.fromAddress .mr0816 .singleChannelControl ⟨1, 20⟩
    [1, 0, 0, 0, 0x85])).state.channelsOn = [1, 3, 8] := by decide

/-- Twelve relays, all of them on. -/
def allOn : RelayBank :=
  ⟨12, List.replicate 12 (some .on), rfl⟩

/-- The mask has bits set behind the twelfth channel, and there is one more byte. -/
def maskOfTwelve : Packet :=
  .fromAddress .mr1216 .singleChannelControl ⟨1, 20⟩ [9, 0, 255, 7, 0x85, 0xF8, 0xFF]

def levelsOfTwelve : Packet :=
  .fromAddress .mr1216 .statusOfChannels ⟨1, 20⟩ [4, 1, 0, 2, 0, 0, 0, 0, 100, 0, 0, 0, 255, 3]

/-- Channels 1, 3, 8 and 12 of twelve that were all on. -/
theorem encodings_agree_twelve :
    (∀ i ∈ ({1, 3, 8, 12} : Finset UInt8), 1 ≤ i ∧ i ≤ allOn.size) ∧
    MaskOf allOn.size {1, 3, 8, 12} maskOfTwelve ∧
    LevelsOf allOn.size {1, 3, 8, 12} levelsOfTwelve ∧
    ∃ after changed,
      allOn.answer .mr1216 maskOfTwelve = ⟨after, .ok changed, []⟩ ∧
      allOn.answer .mr1216 levelsOfTwelve = ⟨after, .ok changed, []⟩ ∧
      after.channelsOn.Pairwise (· < ·) ∧
      (∀ i, i ∈ after.channelsOn ↔ i ∈ ({1, 3, 8, 12} : Finset UInt8)) ∧
      (∀ i, 1 ≤ i → i ≤ allOn.size → i ∉ ({1, 3, 8, 12} : Finset UInt8) →
        after.channel i = some .off) := by
  have hrange : ∀ i ∈ ({1, 3, 8, 12} : Finset UInt8), 1 ≤ i ∧ i ≤ allOn.size := by
    intro i hi
    simp only [Finset.mem_insert, Finset.mem_singleton] at hi
    rcases hi with rfl | rfl | rfl | rfl <;> decide
  have hbits : ∀ b < 2, ∀ k < 8, 8 * b + k + 1 ≤ 12 →
      maskOfTwelve.data[4 + b]? = some (maskOfTwelve.data.getD (4 + b) 0) ∧
      ((maskOfTwelve.data.getD (4 + b) 0).toNat.testBit k = true ↔
        UInt8.ofNat (8 * b + k + 1) ∈ ({1, 3, 8, 12} : Finset UInt8)) := by decide
  have hlevels : ∀ n ≤ 12, 1 ≤ n →
      levelsOfTwelve.data[n]? = some (levelsOfTwelve.data.getD n 0) ∧
      (levelsOfTwelve.data.getD n 0 ≠ 0 ↔ UInt8.ofNat n ∈ ({1, 3, 8, 12} : Finset UInt8)) := by
    decide
  have hmask : MaskOf allOn.size {1, 3, 8, 12} maskOfTwelve :=
    ⟨rfl, by decide, fun b hb k hk hle => ⟨_, hbits b hb k hk hle⟩⟩
  have hreport : LevelsOf allOn.size {1, 3, 8, 12} levelsOfTwelve := by
    refine ⟨rfl, by decide, fun i hone hle => ?_⟩
    rw [UInt8.le_iff_toNat_le] at hone hle
    have hi := hlevels i.toNat hle hone
    rw [UInt8.ofNat_toNat] at hi
    exact ⟨_, hi⟩
  exact ⟨hrange, hmask, hreport, encodings_agree .mr1216 allOn _ hrange hmask hreport⟩

end Fieldbus.RelayBank
