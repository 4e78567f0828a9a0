import Fieldbus.Proofs.Codec.InPlace
import Fieldbus.Proofs.Device.Basic

/-!
# A frame is applied as a whole or not at all

What a frame makes of each kind of channels is told without a codec (`Channels.Applies`), and so is
what makes a frame faulty (`Channels.Faulty`). A device follows the one, and reports the other.
-/
namespace Fieldbus

theorem Diagnostic.isMalformed_iff {diagnostic : Diagnostic} :
    diagnostic.isMalformed = true ↔ ∃ model e, diagnostic = .refused model (.malformed e) := by
  cases diagnostic with
  | unsupportedDevice => simp [isMalformed]
  | refused model reason => cases reason <;> simp [isMalformed]

namespace Channels

variable {p : Packet} {s after : Channels} {e : FrameError}

/-- What a frame makes of channels. It makes nothing of channels without a codec. -/
inductive Applies (p : Packet) : Channels → Channels → Prop
  | relay {bank after : RelayBank} : bank.Applies p after → Applies p (.relay bank) (.relay after)
  | dimmer {bank after : DimmerBank} :
      bank.Applies p after → Applies p (.dimmer bank) (.dimmer after)
  | floorHeating {t after : Thermostat} :
      t.Applies p after → Applies p (.floorHeating t) (.floorHeating after)

theorem applies_iff : Applies p s after ↔ ∃ t, Takes p s t ∧ t.state = after := by
  constructor
  · intro h
    cases h with
    | relay h =>
        obtain ⟨t, ht, rfl⟩ := RelayBank.applies_iff.mp h
        exact ⟨_, .relay ht, rfl⟩
    | dimmer h =>
        obtain ⟨t, ht, rfl⟩ := DimmerBank.applies_iff.mp h
        exact ⟨_, .dimmer ht, rfl⟩
    | floorHeating h =>
        obtain ⟨t, ht, rfl⟩ := Thermostat.applies_iff.mp h
        exact ⟨_, .floorHeating ht, rfl⟩
  · rintro ⟨t, ht, rfl⟩
    cases ht with
    | relay ht => exact .relay (RelayBank.applies_iff.mpr ⟨_, ht, rfl⟩)
    | dimmer ht => exact .dimmer (DimmerBank.applies_iff.mpr ⟨_, ht, rfl⟩)
    | floorHeating ht => exact .floorHeating (Thermostat.applies_iff.mpr ⟨_, ht, rfl⟩)

/-- What is wrong with a frame for such channels. -/
inductive Faulty (p : Packet) : Channels → FrameError → Prop
  | relay {bank : RelayBank} {e} : bank.Faulty p e → Faulty p (.relay bank) e
  | dimmer {bank : DimmerBank} {e} : DimmerBank.Faulty p e → Faulty p (.dimmer bank) e
  | floorHeating {t : Thermostat} {e} : t.Faulty p e → Faulty p (.floorHeating t) e

theorem faulty_iff : Faulty p s e ↔ Refuses p s (.malformed e) := by
  constructor
  · intro h
    cases h with
    | relay h => exact .relay (RelayBank.faulty_iff.mp h)
    | dimmer h => exact .dimmer (DimmerBank.faulty_iff.mp h)
    | floorHeating h => exact .floorHeating (Thermostat.faulty_iff.mp h)
  · intro h
    cases h with
    | relay h => exact .relay (RelayBank.faulty_iff.mpr h)
    | dimmer h => exact .dimmer (DimmerBank.faulty_iff.mpr h)
    | floorHeating h => exact .floorHeating (Thermostat.faulty_iff.mpr h)

theorem Refuses.decode {reason : Refusal} (h : Refuses p s reason) (m : Model) :
    s.decode m p = .error (.refused m reason) :=
  decode_eq_error_iff.mpr (.inl ⟨reason, h, rfl⟩)

theorem Refuses.unique {reason other : Refusal} (h : Refuses p s reason)
    (hother : Refuses p s other) : reason = other := by
  have hsame := (h.decode .invalid).symm.trans (hother.decode .invalid)
  exact (Diagnostic.refused.inj (Except.error.inj hsame)).2

theorem Applies.not_refuses {reason : Refusal} (h : Applies p s after) : ¬ Refuses p s reason := by
  intro hrefuses
  obtain ⟨t, htakes, _⟩ := applies_iff.mp h
  have hdecode := hrefuses.decode .invalid
  rw [decode_eq_ok_iff.mpr htakes] at hdecode
  cases hdecode

end Channels

namespace Device

variable {d after : Device} {p : Packet} {diagnostic : Diagnostic} {kept : List Diagnostic}

/-- A device that a frame was applied to is the same device with other channels, and marked if they
differ from the ones before. -/
structure Applied (p : Packet) (d after : Device) : Prop where
  address : after.address = d.address
  serial : after.serial = d.serial
  model : after.model = d.model
  channels : Channels.Applies p d.channels after.channels
  updated : after.updated = true ↔ d.updated = true ∨ after.channels ≠ d.channels

/-- A device reports why its codec refused a frame, or that it has none. -/
inductive Reports (p : Packet) (d : Device) : Diagnostic → Prop
  | refused {reason} : Channels.Refuses p d.channels reason → Reports p d (.refused d.model reason)
  | unsupported : d.channels = .unsupported → Reports p d (.unsupportedDevice p.command)

/-- The two ways in which a packet can go. -/
theorem decode_cases (d : Device) (p : Packet) :
    ((d.decode p).2 = none ∧ d.Applied p (d.decode p).1) ∨
    ∃ diagnostic, (d.decode p).2 = some diagnostic ∧ (d.decode p).1 = d ∧
      d.Reports p diagnostic ∧ ∀ after, ¬ Channels.Applies p d.channels after := by
  have hupdated := d.updated_decode_iff p
  cases h : d.channels.decode d.model p with
  | ok t =>
      rw [decode_of_ok h] at hupdated ⊢
      have htakes := Channels.decode_eq_ok_iff.mp h
      exact .inl ⟨rfl, rfl, rfl, rfl, Channels.applies_iff.mpr ⟨t, htakes, rfl⟩, hupdated⟩
  | error diagnostic =>
      rw [decode_of_error h]
      refine .inr ⟨diagnostic, rfl, rfl, ?_, fun after happlies => ?_⟩
      · rcases Channels.decode_eq_error_iff.mp h with ⟨reason, hreason, rfl⟩ | ⟨hs, rfl⟩
        · exact .refused hreason
        · exact .unsupported hs
      · obtain ⟨t, htakes, _⟩ := Channels.applies_iff.mp happlies
        rw [Channels.decode_eq_ok_iff.mpr htakes] at h
        cases h

namespace Reports

/-- What is reported tells whether the codec found the frame itself at fault, and how. -/
theorem eq_malformed_iff (h : d.Reports p diagnostic) {e : FrameError} :
    diagnostic = .refused d.model (.malformed e) ↔ Channels.Refuses p d.channels (.malformed e) := by
  cases h with
  | refused h =>
      rw [Diagnostic.refused.injEq, eq_self, true_and]
      constructor
      · rintro rfl
        exact h
      · exact h.unique
  | unsupported hs =>
      rw [hs]
      constructor
      · exact nofun
      · exact nofun

theorem model_eq (h : d.Reports p diagnostic) {model : Model} {reason : Refusal}
    (hrefused : diagnostic = .refused model reason) : model = d.model := by
  cases h with
  | refused => exact (Diagnostic.refused.inj hrefused).1.symm
  | unsupported => cases hrefused

theorem of_unsupported (h : d.Reports p diagnostic) (hs : d.channels = .unsupported) :
    diagnostic = .unsupportedDevice p.command := by
  cases h with
  | refused h =>
      rw [hs] at h
      cases h
  | unsupported => rfl

end Reports

/-! ## Writing in place -/

/-- What the codec of the family comes to, when it writes in place. -/
def codecResult (d : Device) (p : Packet) (kept : List Diagnostic) : Except FrameError Bool :=
  ((Channels.decodeInPlace d.model p).on ⟨d.channels, kept⟩).1

theorem codecResult_eq_error_iff {e : FrameError} :
    d.codecResult p kept = .error e ↔ Channels.Refuses p d.channels (.malformed e) := by
  rw [codecResult, Channels.leaves_decodeInPlace]
  constructor
  · intro h
    rcases d.channels.takes_or_refuses p with ⟨t, htakes⟩ | ⟨reason, hrefuses⟩ | hs
    · rw [Channels.answer_of_takes htakes] at h
      cases h
    · rw [Channels.answer_of_refuses hrefuses] at h
      cases reason <;> cases h
      exact hrefuses
    · rw [hs] at h
      cases h
  · intro h
    rw [Channels.answer_of_refuses h]
    rfl

/-- In place the device comes to the same, and the report stands behind what was recorded before. -/
theorem decodeInPlace_eq (d : Device) (p : Packet) (kept : List Diagnostic) :
    decodeInPlace p ⟨d, kept⟩ = ⟨(d.decode p).1, kept ++ (d.decode p).2.toList⟩ := by
  have hcodec := InPlace.leaves_within (Channels.leaves_decodeInPlace d.model d.channels p)
    (fun channels (d : Device) => { d with channels }) d kept
  rw [decodeInPlace]
  simp only [hcodec]
  rcases d.channels.takes_or_refuses p with ⟨t, htakes⟩ | ⟨reason, hrefuses⟩ | hs
  · rw [Channels.answer_of_takes htakes, decode_of_ok (Channels.decode_eq_ok_iff.mpr htakes)]
    simp only [Reply.map, Reply.of, List.append_nil, Option.toList_none]
    cases t.changed with
    | true => rw [Bool.or_true]; rfl
    | false => rw [Bool.or_false]
  · rw [Channels.answer_of_refuses hrefuses, decode_of_error (hrefuses.decode d.model)]
    cases reason with
    | malformed e =>
        simp only [Reply.map, Reply.of, List.append_nil]
        rfl
    | _ => rfl
  · have herror : d.channels.decode d.model p = .error (.unsupportedDevice p.command) := by
      rw [hs]
      rfl
    have hanswer : d.channels.answer d.model p
        = ⟨d.channels, .ok false, [.unsupportedDevice p.command]⟩ := by
      rw [hs]
      rfl
    rw [hanswer, decode_of_error herror]
    rfl

/-- The two ways in which a packet can go, when the codec writes in place. -/
theorem decodeInPlace_cases (d : Device) (p : Packet) (kept : List Diagnostic) :
    ((decodeInPlace p ⟨d, kept⟩).records = kept ∧ d.Applied p (decodeInPlace p ⟨d, kept⟩).state) ∨
    ∃ diagnostic, decodeInPlace p ⟨d, kept⟩ = ⟨d, kept ++ [diagnostic]⟩ ∧
      d.Reports p diagnostic ∧ ∀ after, ¬ Channels.Applies p d.channels after := by
  rw [decodeInPlace_eq]
  rcases d.decode_cases p with ⟨hnone, happlied⟩ | ⟨diagnostic, hsome, hsame, hreports, hnot⟩
  · rw [hnone]
    exact .inl ⟨List.append_nil kept, happlied⟩
  · refine .inr ⟨diagnostic, ?_, hreports, hnot⟩
    rw [hsome, hsame, Option.toList_some]

/-! ## The main statement -/

/-- A frame is applied as a whole and nothing is recorded, or the device stays as it is and one
diagnostic is recorded, although the codec writes and records as it goes along. The diagnostic puts
the blame on the frame exactly if the codec ended with an error, which it does exactly if the frame
is faulty. It names no model but that of the device, and a device without a codec can only report
that. -/
theorem decode_all_or_nothing (d : Device) (p : Packet) (kept : List Diagnostic) :
    (((decodeInPlace p ⟨d, kept⟩).records = kept ∧
        d.Applied p (decodeInPlace p ⟨d, kept⟩).state) ∨
      ∃ diagnostic, decodeInPlace p ⟨d, kept⟩ = ⟨d, kept ++ [diagnostic]⟩ ∧
        ∀ after, ¬ Channels.Applies p d.channels after) ∧
    (∀ e, (d.codecResult p kept = .error e ↔
        (decodeInPlace p ⟨d, kept⟩).records = kept ++ [.refused d.model (.malformed e)]) ∧
      (d.codecResult p kept = .error e ↔ Channels.Faulty p d.channels e)) ∧
    (∀ diagnostic, (decodeInPlace p ⟨d, kept⟩).records = kept ++ [diagnostic] →
      (diagnostic.isMalformed = true ↔ ∃ e, d.codecResult p kept = .error e) ∧
      ∀ model reason, diagnostic = .refused model reason → model = d.model) ∧
    (d.channels = .unsupported →
      decodeInPlace p ⟨d, kept⟩ = ⟨d, kept ++ [.unsupportedDevice p.command]⟩) ∧
    decodeInPlace p ⟨d, kept⟩ = ⟨(d.decode p).1, kept ++ (d.decode p).2.toList⟩ := by
  simp only [codecResult_eq_error_iff]
  rcases d.decodeInPlace_cases p kept with ⟨hsilent, happlied⟩ | ⟨diagnostic, hleft, hreports, hnot⟩
  · have hnever : ∀ diagnostic, (decodeInPlace p ⟨d, kept⟩).records ≠ kept ++ [diagnostic] := by
      intro diagnostic h
      simpa using congrArg List.length (hsilent.symm.trans h)
    refine ⟨.inl ⟨hsilent, happlied⟩, fun e => ⟨?_, Channels.faulty_iff.symm⟩,
      fun diagnostic h => absurd h (hnever diagnostic), fun hs => ?_, d.decodeInPlace_eq p kept⟩
    · exact iff_of_false happlied.channels.not_refuses (hnever _)
    · have happlies := happlied.channels
      rw [hs] at happlies
      cases happlies
  · have htold : ∀ other, (decodeInPlace p ⟨d, kept⟩).records = kept ++ [other] ↔
        diagnostic = other := by
      intro other
      rw [hleft, List.append_cancel_left_eq, List.cons.injEq, and_iff_left rfl]
    refine ⟨.inr ⟨diagnostic, hleft, hnot⟩, fun e => ⟨?_, Channels.faulty_iff.symm⟩,
      fun other h => ?_, fun hs => ?_, d.decodeInPlace_eq p kept⟩
    · exact ((htold _).trans hreports.eq_malformed_iff).symm
    · obtain rfl := (htold other).mp h
      refine ⟨?_, fun model reason => hreports.model_eq⟩
      rw [Diagnostic.isMalformed_iff]
      constructor
      · rintro ⟨model, e, hmalformed⟩
        obtain rfl := hreports.model_eq hmalformed
        exact ⟨e, hreports.eq_malformed_iff.mp hmalformed⟩
      · rintro ⟨e, hrefuses⟩
        exact ⟨d.model, e, hreports.eq_malformed_iff.mpr hrefuses⟩
    · rw [hleft, hreports.of_unsupported hs]

end Device
end Fieldbus
