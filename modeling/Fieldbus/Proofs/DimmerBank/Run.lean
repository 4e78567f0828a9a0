import Fieldbus.Proofs.Codec.DimmerBank
import Fieldbus.Proofs.Codec.Reply

/-!
# What a dimmer bank shows after a run of packets

A level report writes all four channels and a control reply the one that it names. So each channel
has a last frame of its own, and shows that one.
-/
namespace Fieldbus.DimmerBank

variable {bank : DimmerBank} {model : Model} {p : Packet} {i : UInt8}

/-! ## One packet -/

/-- What a bank takes: level reports with four levels up to 100, and control replies that name one of
the four channels and such a level. -/
def Readable (p : Packet) : Prop :=
  (p.command.isLevelReport = true ∧ 5 ≤ p.data.length ∧
    ∀ i ≤ 4, 1 ≤ i → p.data[i]?.any (· ≤ 100) = true) ∨
  (p.command = .singleChannelControl ∧ 3 ≤ p.data.length ∧
    p.data[0]?.any (fun channel => 1 ≤ channel ∧ channel ≤ 4) = true ∧
    p.data[2]?.any (· ≤ 100) = true)

instance (p : Packet) : Decidable (Readable p) :=
  inferInstanceAs (Decidable (_ ∨ _))

/-- A level report is about every channel, a control reply about the one in its first byte. -/
def Writes (p : Packet) (i : UInt8) : Prop :=
  p.command.isLevelReport = true ∨ p.data[0]? = some i

instance (p : Packet) (i : UInt8) : Decidable (Writes p i) :=
  inferInstanceAs (Decidable (_ ∨ _))

/-- The level that a packet has for a channel. -/
def levelFor? (p : Packet) (i : UInt8) : Option UInt8 :=
  if p.command.isLevelReport then p.data[i.toNat]? else p.data[2]?

theorem levelFor?_of_report (hc : p.command.isLevelReport = true) (i : UInt8) :
    levelFor? p i = p.data[i.toNat]? :=
  if_pos hc

theorem levelFor?_of_control (hc : p.command = .singleChannelControl) (i : UInt8) :
    levelFor? p i = p.data[2]? :=
  if_neg (Packet.not_isLevelReport hc)

theorem writes_iff_of_control (hc : p.command = .singleChannelControl) :
    Writes p i ↔ p.data[0]? = some i :=
  or_iff_right (Packet.not_isLevelReport hc)

theorem any_level_iff {slot : Option UInt8} :
    slot.any (· ≤ 100) = true ↔ ∃ level : Percent, slot = some level.value := by
  cases slot with
  | none => simp
  | some byte =>
      simp only [Option.any_some, decide_eq_true_eq, Option.some.injEq]
      constructor
      · intro hle
        exact ⟨⟨byte, hle⟩, rfl⟩
      · rintro ⟨level, rfl⟩
        exact level.value_le

theorem any_channel_iff {slot : Option UInt8} :
    slot.any (fun channel => 1 ≤ channel ∧ channel ≤ 4) = true ↔
      ∃ c : Channel, slot = some c.toByte := by
  cases slot with
  | none => simp
  | some byte =>
      simp only [Option.any_some, decide_eq_true_eq, Option.some.injEq]
      constructor
      · rintro ⟨hone, hle⟩
        obtain ⟨c, rfl⟩ := Channel.exists_toByte hone hle
        exact ⟨c, rfl⟩
      · rintro ⟨c, rfl⟩
        exact c.bounds

theorem levels_iff :
    (∀ i ≤ 4, 1 ≤ i → p.data[i]?.any (· ≤ 100) = true) ↔
      ∃ levels : Channel → Percent, ∀ c, p.data[c.toByte.toNat]? = some (levels c).value := by
  constructor
  · intro h
    refine Classical.skolem.mp fun c => any_level_iff.mp ?_
    obtain ⟨hone, hle⟩ := c.bounds
    rw [UInt8.le_iff_toNat_le] at hone hle
    exact h c.toByte.toNat hle hone
  · rintro ⟨levels, hlevels⟩ n hle hone
    obtain ⟨c, rfl⟩ := Channel.exists_place hone hle
    exact any_level_iff.mpr ⟨levels c, hlevels c⟩

theorem exists_levelFor? (h : Readable p) (hone : 1 ≤ i) (hle : i ≤ 4) :
    ∃ level, levelFor? p i = some level := by
  rcases h with ⟨hc, _, hlevels⟩ | ⟨hc, _, _, hlevel⟩
  · rw [UInt8.le_iff_toNat_le] at hone hle
    obtain ⟨level, hlevel⟩ := any_level_iff.mp (hlevels i.toNat hle hone)
    exact ⟨level.value, (levelFor?_of_report hc i).trans hlevel⟩
  · obtain ⟨level, hlevel⟩ := any_level_iff.mp hlevel
    exact ⟨level.value, (levelFor?_of_control hc i).trans hlevel⟩

section Answer

variable (model)

theorem accepted_iff (bank : DimmerBank) (p : Packet) :
    (bank.answer model p).Accepted ↔ Readable p := by
  rw [answer, Reply.accepted_of_iff, Readable, levels_iff, any_channel_iff, any_level_iff]
  constructor
  · rintro ⟨t, ht⟩
    rcases decode_eq_ok_iff.mp ht with ⟨hc, h⟩ | ⟨hc, h⟩
    · obtain ⟨hle, levels, hlevels, _⟩ := decodeReport_eq_ok_iff.mp h
      exact .inl ⟨hc, hle, levels, hlevels⟩
    · obtain ⟨hle, c, level, hzero, htwo, _⟩ := decodeControl_eq_ok_iff.mp h
      exact .inr ⟨hc, hle, ⟨c, hzero⟩, level, htwo⟩
  · rintro (⟨hc, hle, levels, hlevels⟩ | ⟨hc, hle, ⟨c, hzero⟩, level, htwo⟩)
    · exact ⟨_, decode_eq_ok_iff.mpr (.inl ⟨hc, decodeReport_eq_ok_iff.mpr
        ⟨hle, levels, hlevels, rfl⟩⟩)⟩
    · exact ⟨_, decode_eq_ok_iff.mpr (.inr ⟨hc, decodeControl_eq_ok_iff.mpr
        ⟨hle, c, level, hzero, htwo, rfl⟩⟩)⟩

theorem applies_answer (bank : DimmerBank) (h : Readable p) :
    bank.Applies p (bank.answer model p).state :=
  applies_iff.mpr (Reply.taken_of_accepted ((accepted_iff model bank p).mpr h))

theorem state_of_not_readable (bank : DimmerBank) (h : ¬ Readable p) :
    (bank.answer model p).state = bank :=
  Reply.state_of_not_accepted (mt (accepted_iff model bank p).mp h)

/-- A frame that is taken writes its levels, and leaves the other channels alone. -/
theorem channel_answer (bank : DimmerBank) (h : Readable p) (hone : 1 ≤ i) (hle : i ≤ 4) :
    ((bank.answer model p).state.channel i).map (·.value)
      = if Writes p i then levelFor? p i else (bank.channel i).map (·.value) := by
  obtain ⟨c, rfl⟩ := Channel.exists_toByte hone hle
  rw [channel_toByte, channel_toByte]
  cases applies_answer model bank h with
  | report levels hreport _ hlevels hafter =>
      rw [if_pos (.inl hreport), levelFor?_of_report hreport, hafter, hlevels]
      rfl
  | control named level hcontrol _ hzero htwo hafter hothers =>
      have hwrites : Writes p c.toByte ↔ named = c := by
        rw [writes_iff_of_control hcontrol, hzero, Option.some.injEq]
        exact ⟨Channel.toByte_injective, congrArg Channel.toByte⟩
      by_cases hnamed : named = c
      · subst hnamed
        rw [if_pos (hwrites.mpr rfl), levelFor?_of_control hcontrol, hafter, htwo]
        rfl
      · rw [if_neg (mt hwrites.mp hnamed), hothers c (Ne.symm hnamed)]

theorem result_iff (bank : DimmerBank) (p : Packet) :
    (bank.answer model p).result = .ok true ↔
      ∃ i, 1 ≤ i ∧ i ≤ 4 ∧ (bank.answer model p).state.channel i ≠ bank.channel i := by
  simp only [← and_assoc]
  refine Reply.result_of_iff_exists (fun t ht => decode_exact ht) fun hsame => eq_of_get fun c => ?_
  rw [← channel_toByte, ← channel_toByte]
  exact hsame c.toByte c.bounds

end Answer

/-! ## Frames that are not taken -/

section Refused

variable (model) (bank)

theorem answer_of_level_above (hc : p.command.isLevelReport = true) (hle : 5 ≤ p.data.length)
    {offset : Nat} {byte : UInt8} (hone : 1 ≤ offset) (hfour : offset ≤ 4)
    (hbyte : p.data[offset]? = some byte) (hout : 100 < byte)
    (hearlier : ∀ earlier < offset, 1 ≤ earlier → p.data[earlier]?.any (· ≤ 100) = true) :
    bank.answer model p = ⟨bank, .error (.percent offset byte), []⟩ := by
  obtain ⟨c, rfl⟩ := Channel.exists_place hone hfour
  have hfaulty : Faulty p (.percent c.toByte.toNat byte) := by
    refine .level c byte hc hle hbyte (UInt8.not_le.mpr hout) fun other hother => ?_
    rw [UInt8.lt_iff_toNat_lt] at hother
    exact any_level_iff.mp (hearlier _ hother (UInt8.le_iff_toNat_le.mp other.bounds.1))
  rw [answer, faulty_iff.mp hfaulty]
  rfl

theorem answer_of_control_level_above (hc : p.command = .singleChannelControl)
    (hle : 3 ≤ p.data.length) {channel byte : UInt8} (hchannel : p.data[0]? = some channel)
    (hone : 1 ≤ channel) (hfour : channel ≤ 4) (hbyte : p.data[2]? = some byte)
    (hout : 100 < byte) : bank.answer model p = ⟨bank, .error (.percent 2 byte), []⟩ := by
  obtain ⟨c, rfl⟩ := Channel.exists_toByte hone hfour
  rw [answer, faulty_iff.mp (.controlLevel c byte hc hle hchannel hbyte (UInt8.not_le.mpr hout))]
  rfl

end Refused

/-! ## Runs -/

/-- The bank after some packets. -/
def run (model : Model) (bank : DimmerBank) (packets : List Packet) : DimmerBank :=
  Reply.run (answer model) bank packets

/-- What a channel shows of the last frame that has written it. -/
def Shows (i : UInt8) (last : Option Packet) (bank : DimmerBank) : Prop :=
  (bank.channel i).map (·.value) = last.bind fun p => levelFor? p i

theorem shows_run (model : Model) (packets : List Packet) (hone : 1 ≤ i) (hle : i ≤ 4) :
    Shows i (packets.filter fun p => Readable p ∧ Writes p i).getLast?
      (unknown.run model packets) := by
  refine Reply.run_last (fun last bank p h hp => ?_) (fun last bank p h hp => ?_) ?_ packets
  · obtain ⟨hreadable, hwrites⟩ := hp
    rw [Shows, channel_answer model bank hreadable hone hle, if_pos hwrites]
    rfl
  · by_cases hreadable : Readable p
    · have hwrites : ¬ Writes p i := fun hwrites => hp ⟨hreadable, hwrites⟩
      rw [Shows, channel_answer model bank hreadable hone hle, if_neg hwrites]
      exact h
    · rw [state_of_not_readable model bank hreadable]
      exact h
  · obtain ⟨c, rfl⟩ := Channel.exists_toByte hone hle
    rw [Shows, channel_toByte]
    cases c <;> rfl

/-! ## The main statement -/

/-- In every state that a bank reaches it takes the frames that it can read, and no others. Each
channel has the level that the last frame that was taken and writes it has for it, and is unknown
until there is one. A frame that is too short is refused with the length that is needed, a level
report otherwise with its first level above 100; a control reply is looked at for its channel
before its level. A frame is told to change something exactly if it changes a channel. -/
theorem run_shows_last_levels (model : Model) (packets : List Packet) :
    (∀ p, ((unknown.run model packets).answer model p).Accepted ↔ Readable p) ∧
    (∀ p, Readable p → ∀ i, 1 ≤ i → i ≤ 4 →
      (((unknown.run model packets).answer model p).state.channel i).map (·.value)
        = if Writes p i then levelFor? p i
          else ((unknown.run model packets).channel i).map (·.value)) ∧
    (∀ i, 1 ≤ i → i ≤ 4 →
      (packets.filter (fun p => Readable p ∧ Writes p i) = [] →
        (unknown.run model packets).channel i = none) ∧
      ∀ last, (packets.filter fun p => Readable p ∧ Writes p i).getLast? = some last →
        ∃ level, (unknown.run model packets).channel i = some level ∧
          levelFor? last i = some level.value) ∧
    (∀ p, p.command.isLevelReport = true → p.data.length < 5 →
      (unknown.run model packets).answer model p
        = ⟨unknown.run model packets, .error (.shortPayload p.command 5 p.data.length), []⟩) ∧
    (∀ p, p.command.isLevelReport = true → 5 ≤ p.data.length →
      ∀ offset byte, 1 ≤ offset → offset ≤ 4 → p.data[offset]? = some byte → 100 < byte →
        (∀ earlier < offset, 1 ≤ earlier → p.data[earlier]?.any (· ≤ 100) = true) →
        (unknown.run model packets).answer model p
          = ⟨unknown.run model packets, .error (.percent offset byte), []⟩) ∧
    (∀ p, p.command = .singleChannelControl → p.data.length < 3 →
      (unknown.run model packets).answer model p
        = ⟨unknown.run model packets, .error (.shortPayload p.command 3 p.data.length), []⟩) ∧
    (∀ p, p.command = .singleChannelControl → 3 ≤ p.data.length →
      ∀ channel, p.data[0]? = some channel →
        (¬ (1 ≤ channel ∧ channel ≤ 4) →
          (unknown.run model packets).answer model p
            = ⟨unknown.run model packets, .ok false,
                [.refused model (.unsupportedChannel p.command channel)]⟩) ∧
        (1 ≤ channel → channel ≤ 4 → ∀ byte, p.data[2]? = some byte → 100 < byte →
          (unknown.run model packets).answer model p
            = ⟨unknown.run model packets, .error (.percent 2 byte), []⟩)) ∧
    (∀ p, ((unknown.run model packets).answer model p).result = .ok true ↔
      ∃ i, 1 ≤ i ∧ i ≤ 4 ∧ ((unknown.run model packets).answer model p).state.channel i
        ≠ (unknown.run model packets).channel i) := by
  have hshows : ∀ i, 1 ≤ i → i ≤ 4 →
      Shows i (packets.filter fun p => Readable p ∧ Writes p i).getLast?
        (unknown.run model packets) := fun i => shows_run model packets
  generalize unknown.run model packets = bank at hshows ⊢
  refine ⟨accepted_iff model bank, fun p h i => channel_answer model bank h,
    fun i hone hle => ⟨fun hnil => ?_, fun last hlast => ?_⟩, fun p hc hlt => ?_,
    fun p hc hle offset byte hone hfour => answer_of_level_above bank model hc hle hone hfour,
    fun p hc hlt => ?_, fun p hc hle channel hchannel => ⟨fun hout => ?_, fun hone hfour byte =>
      answer_of_control_level_above bank model hc hle hchannel hone hfour⟩, result_iff model bank⟩
  · have hlevel := hshows i hone hle
    rw [hnil] at hlevel
    exact Option.map_eq_none_iff.mp hlevel
  · have hlevel := hshows i hone hle
    have hcounts : Readable last ∧ Writes last i := by
      simpa using (List.mem_filter.mp (List.mem_of_getLast? hlast)).2
    obtain ⟨value, hvalue⟩ := exists_levelFor? hcounts.1 hone hle
    rw [Shows, hlast, Option.bind_some, hvalue] at hlevel
    obtain ⟨level, hchannel, rfl⟩ := Option.map_eq_some_iff.mp hlevel
    exact ⟨level, hchannel, hvalue⟩
  · rw [answer, faulty_iff.mp (.report hc hlt)]
    rfl
  · rw [answer, faulty_iff.mp (.control hc hlt)]
    rfl
  · rw [answer, decode_of_unsupported hc hle hchannel hout]
    rfl

end Fieldbus.DimmerBank
