import Fieldbus.Device

/-!
# What the caller of a codec gets

A codec that is called on its own gives back whether it changed anything, or an error if the frame
cannot be read, and reports what it does not take.
-/
namespace Fieldbus

/-- The end of a call: the state it leaves, what it gives back, and what it reported meanwhile. -/
structure Reply (σ : Type) where
  state : σ
  result : Except FrameError Bool
  reported : List Diagnostic

namespace Reply

variable {σ τ : Type} {model : Model} {before : σ} {outcome : Except Refusal (Tracked σ)}

def map (f : σ → τ) (reply : Reply σ) : Reply τ :=
  ⟨f reply.state, reply.result, reply.reported⟩

/-- A frame that cannot be read is an error. Any other refusal is reported, and changes nothing. -/
def of (model : Model) (before : σ) : Except Refusal (Tracked σ) → Reply σ
  | .ok after => ⟨after.state, .ok after.changed, []⟩
  | .error (.malformed e) => ⟨before, .error e, []⟩
  | .error reason => ⟨before, .ok false, [.refused model reason]⟩

/-- The frame was taken: it is no error, and there was nothing to report. -/
def Accepted (reply : Reply σ) : Prop :=
  (∃ changed, reply.result = .ok changed) ∧ reply.reported = []

theorem accepted_of_iff : (of model before outcome).Accepted ↔ ∃ after, outcome = .ok after := by
  cases outcome with
  | ok after => simp [of, Accepted]
  | error reason => cases reason <;> simp [of, Accepted]

theorem taken_of_accepted (h : (of model before outcome).Accepted) :
    ∃ after, outcome = .ok after ∧ after.state = (of model before outcome).state := by
  obtain ⟨after, rfl⟩ := accepted_of_iff.mp h
  exact ⟨after, rfl, rfl⟩

theorem state_of_not_accepted (h : ¬ (of model before outcome).Accepted) :
    (of model before outcome).state = before := by
  cases outcome with
  | ok after => exact absurd (accepted_of_iff.mpr ⟨after, rfl⟩) h
  | error reason => cases reason <;> rfl

end Reply

def RelayBank.answer (model : Model) (bank : RelayBank) (p : Packet) : Reply RelayBank :=
  .of model bank (bank.decode p)

def DimmerBank.answer (model : Model) (bank : DimmerBank) (p : Packet) : Reply DimmerBank :=
  .of model bank (bank.decode p)

def Thermostat.answer (model : Model) (t : Thermostat) (p : Packet) : Reply Thermostat :=
  .of model t (t.decode p)

/-- The reply of the codec of the family. Channels without a codec only report that. -/
def Channels.answer (m : Model) (p : Packet) : Channels → Reply Channels
  | relay bank => (bank.answer m p).map relay
  | dimmer bank => (bank.answer m p).map dimmer
  | floorHeating thermostat => (thermostat.answer m p).map floorHeating
  | unsupported => ⟨unsupported, .ok false, [.unsupportedDevice p.command]⟩

end Fieldbus
