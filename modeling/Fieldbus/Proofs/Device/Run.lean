import Fieldbus.Proofs.Device.Basic
import Fieldbus.Proofs.Thermostat.Run

/-!
# The mark of a change over a run of calls

However a device that was made from a configuration is called, a packet raises its mark exactly if
it leaves the channels in another state. The states that arise hold temperatures of bytes only, so
for them it does not matter whether states are compared by their values or as they are stored.
-/
namespace Fieldbus

/-- A place in a run that has grown by one element is the last one or lies in the run before. -/
theorem concat_eq_split_iff {α : Type} {run before later : List α} {last x : α} :
    run ++ [last] = before ++ x :: later ↔
      (run = before ∧ last = x ∧ later = []) ∨
        ∃ rest, later = rest ++ [last] ∧ run = before ++ x :: rest := by
  constructor
  · intro hsplit
    rcases List.eq_nil_or_concat later with rfl | ⟨rest, other, rfl⟩
    · obtain ⟨hrun, hlast⟩ := List.append_inj' hsplit rfl
      exact .inl ⟨hrun, List.singleton_inj.mp hlast, rfl⟩
    · rw [List.concat_eq_append] at hsplit ⊢
      have hsplit' : run ++ [last] = (before ++ x :: rest) ++ [other] := by
        rw [hsplit, List.append_assoc, List.cons_append]
      obtain ⟨hrun, hlast⟩ := List.append_inj' hsplit' rfl
      exact .inr ⟨rest, by rw [hlast], hrun⟩
  · rintro (⟨rfl, rfl, rfl⟩ | ⟨rest, rfl, rfl⟩)
    · rfl
    · rw [List.append_assoc, List.cons_append]

/-! ## States that hold temperatures of bytes -/

namespace Channels

variable {s after : Channels} {p : Packet} {t : Tracked Channels}

/-- Temperatures that are known are numbers of bytes. -/
def Bytewise : Channels → Prop
  | floorHeating thermostat => thermostat.Bytewise
  | _ => True

theorem Bytewise.same_iff (hs : s.Bytewise) (hafter : after.Bytewise) :
    s.same after = true ↔ s = after := by
  cases s with
  | relay bank => cases after <;> simp [same]
  | dimmer bank => cases after <;> simp [same]
  | floorHeating thermostat =>
      cases after with
      | floorHeating other => exact (Thermostat.Bytewise.same_iff hs hafter).trans (by simp)
      | relay _ | dimmer _ | unsupported => simp [same]
  | unsupported => cases after <;> simp [same]

theorem Bytewise.takes (hs : s.Bytewise) (h : Takes p s t) : t.state.Bytewise := by
  cases h with
  | relay => trivial
  | dimmer => trivial
  | floorHeating h => exact Thermostat.Bytewise.decode hs h

end Channels

namespace Device

variable {d : Device}

theorem bytewise_ofConfiguration (config : Configuration) :
    (ofConfiguration config).channels.Bytewise := by
  unfold ofConfiguration
  cases config.model.family with
  | relay size => trivial
  | dimmer => trivial
  | floorHeating => exact Thermostat.bytewise_unknown _
  | unsupported => trivial

theorem bytewise_decode (h : d.channels.Bytewise) (p : Packet) :
    (d.decode p).1.channels.Bytewise := by
  cases hdecode : d.channels.decode d.model p with
  | error diagnostic =>
      rw [decode_of_error hdecode]
      exact h
  | ok t =>
      rw [decode_of_ok hdecode]
      exact h.takes (Channels.decode_eq_ok_iff.mp hdecode)

/-! ## Runs -/

/-- What can be done to a device. -/
inductive Call where
  | decode (p : Packet)
  | setUpdated (updated : Bool)

def call (d : Device) : Call → Device
  | .decode p => (d.decode p).1
  | .setUpdated updated => d.setUpdated updated

/-- The device after some calls. -/
def after (d : Device) (calls : List Call) : Device :=
  calls.foldl call d

/-- The device of a configuration after some calls. -/
def ofCalls (config : Configuration) (calls : List Call) : Device :=
  (ofConfiguration config).after calls

theorem after_append (d : Device) (calls later : List Call) :
    d.after (calls ++ later) = (d.after calls).after later :=
  List.foldl_append

theorem bytewise_call (h : d.channels.Bytewise) (c : Call) : (d.call c).channels.Bytewise := by
  cases c with
  | decode p => exact bytewise_decode h p
  | setUpdated updated => exact h

theorem bytewise_ofCalls (config : Configuration) (calls : List Call) :
    (ofCalls config calls).channels.Bytewise := by
  induction calls using List.reverseRecOn with
  | nil => exact bytewise_ofConfiguration config
  | append_singleton calls c ih =>
      rw [ofCalls, after_append]
      exact bytewise_call ih c

/-- Packets raise the mark if one of them changes the channels, and leave it if none does. -/
theorem updated_after_packets (d : Device) (packets : List Packet) :
    (d.after (packets.map .decode)).updated = true ↔
      d.updated = true ∨ ∃ before p later, packets = before ++ p :: later ∧
        ((d.after (before.map .decode)).decode p).1.channels
          ≠ (d.after (before.map .decode)).channels := by
  induction packets using List.reverseRecOn with
  | nil => simp [after]
  | append_singleton packets p ih =>
      rw [List.map_append, after_append, List.map_singleton]
      refine (updated_decode_iff _ p).trans ?_
      rw [ih, or_assoc]
      refine or_congr_right ?_
      constructor
      · rintro (⟨before, q, later, rfl, hchange⟩ | hchange)
        · exact ⟨before, q, later ++ [p], concat_eq_split_iff.mpr (.inr ⟨later, rfl, rfl⟩), hchange⟩
        · exact ⟨packets, p, [], rfl, hchange⟩
      · rintro ⟨before, q, later, hsplit, hchange⟩
        rcases concat_eq_split_iff.mp hsplit with ⟨rfl, rfl, -⟩ | ⟨rest, -, rfl⟩
        · exact .inr hchange
        · exact .inl ⟨before, q, rest, rfl, hchange⟩

/-! ## The main statement -/

/-- However a device came to be as it is, a packet leaves it marked exactly if it was marked before
or its channels are in another state, by value as well as in every field. No packet clears the mark.
So the mark tells after it was cleared whether a packet has changed the channels since. -/
theorem updated_ofCalls (config : Configuration) (calls : List Call) :
    (∀ p, ((ofCalls config calls).decode p).1.updated = true ↔
      (ofCalls config calls).updated = true ∨
        ((ofCalls config calls).decode p).1.channels ≠ (ofCalls config calls).channels) ∧
    (∀ p, ((ofCalls config calls).decode p).1.channels.same (ofCalls config calls).channels = true ↔
      ((ofCalls config calls).decode p).1.channels = (ofCalls config calls).channels) ∧
    (∀ p, (ofCalls config calls).updated = true →
      ((ofCalls config calls).decode p).1.updated = true) ∧
    (∀ packets,
      (ofCalls config (calls ++ .setUpdated false :: packets.map .decode)).updated = true ↔
        ∃ before p later, packets = before ++ p :: later ∧
          (ofCalls config (calls ++ .setUpdated false :: (before ++ [p]).map .decode)).channels
            ≠ (ofCalls config (calls ++ .setUpdated false :: before.map .decode)).channels) := by
  have hbytewise := bytewise_ofCalls config calls
  refine ⟨fun p => updated_decode_iff _ p, fun p => ?_, fun p hmark => ?_, fun packets => ?_⟩
  · exact (bytewise_decode hbytewise p).same_iff hbytewise
  · exact (updated_decode_iff _ p).mpr (.inl hmark)
  · have hcleared : ∀ later, ofCalls config (calls ++ .setUpdated false :: later)
        = ((ofCalls config calls).setUpdated false).after later := fun later => after_append _ _ _
    have hlast : ∀ before p, ((ofCalls config calls).setUpdated false).after
        ((before ++ [p]).map .decode)
        = ((((ofCalls config calls).setUpdated false).after (before.map .decode)).decode p).1 := by
      intro before p
      rw [List.map_append, after_append]
      rfl
    simp only [hcleared, hlast]
    refine (updated_after_packets _ packets).trans (or_iff_right ?_)
    exact Bool.false_ne_true

end Device
end Fieldbus
