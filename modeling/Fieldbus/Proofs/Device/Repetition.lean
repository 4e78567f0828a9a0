import Fieldbus.Proofs.Device.Frames

/-!
# Packets that are repeated

A frame that was applied has nothing more to make of the channels, so a packet that comes again at
once leaves them as they are and is answered as before, but that it tells of no change.
-/
namespace Fieldbus

namespace Reply

variable {σ : Type}

/-- The same reply, but that it tells of no change. An error stays an error. -/
def unchanged (reply : Reply σ) : Reply σ :=
  { reply with result := reply.result.map fun _ => false }

theorem state_of_error (m : Model) (s : σ) (reason : Refusal) :
    (of m s (.error reason)).state = s := by
  cases reason <;> rfl

theorem unchanged_of_error (m : Model) (s : σ) (reason : Refusal) :
    (of m s (.error reason)).unchanged = of m s (.error reason) := by
  cases reason <;> rfl

end Reply

namespace Channels

variable {p : Packet} {s after : Channels} {m : Model} {t : Tracked Channels} {d : Diagnostic}

/-! ## The same frame again -/

theorem Applies.again (h : Applies p s after) : Applies p after after := by
  cases h with
  | relay h => exact .relay h.again
  | dimmer h => exact .dimmer h.again
  | floorHeating h => exact .floorHeating h.again

theorem Takes.again (h : Takes p s t) : Takes p t.state (.start t.state) := by
  obtain ⟨u, hu, hstate⟩ := applies_iff.mp (applies_iff.mpr ⟨t, h, rfl⟩).again
  rwa [hu.exact.eq_start hstate] at hu

/-- The second reply is the first one, but that it tells of no change. -/
theorem answer_answer (m : Model) (p : Packet) (s : Channels) :
    (s.answer m p).state.answer m p = (s.answer m p).unchanged := by
  rcases takes_or_refuses p s with ⟨t, htakes⟩ | ⟨reason, hrefuses⟩ | rfl
  · rw [answer_of_takes htakes]
    exact answer_of_takes htakes.again m
  · rw [answer_of_refuses hrefuses, Reply.state_of_error, answer_of_refuses hrefuses,
      Reply.unchanged_of_error]
  · rfl

end Channels

namespace Device

/-- A device that has taken a packet in, or not, has nothing more to do with it, also if its mark is
set or cleared meanwhile. It reports the same. -/
theorem decode_setUpdated_decode (d : Device) (p : Packet) (b : Bool) :
    ((d.decode p).1.setUpdated b).decode p = ((d.decode p).1.setUpdated b, (d.decode p).2) := by
  cases h : d.channels.decode d.model p with
  | error diagnostic =>
      rw [decode_of_error h]
      exact decode_of_error h
  | ok t =>
      have hagain : t.state.decode d.model p = .ok (.start t.state) :=
        Channels.decode_eq_ok_iff.mpr (Channels.decode_eq_ok_iff.mp h).again
      rw [decode_of_ok h, decode_of_ok hagain]
      simp only [setUpdated, Tracked.start, Bool.or_false]

theorem decode_decode (d : Device) (p : Packet) : (d.decode p).1.decode p = d.decode p :=
  d.decode_setUpdated_decode p (d.decode p).1.updated

end Device
end Fieldbus
