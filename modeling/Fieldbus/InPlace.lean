import Fieldbus.Diagnostic
import Fieldbus.Tracked

/-!
# Writing in place

A codec that writes in place is handed the state that it writes to and the list that it records in.
Both are left as they are when it ends, in whatever way: an error takes back neither what was written
before it nor what was recorded.
-/
namespace Fieldbus

/-- What a codec is handed: a state, and what has been recorded so far. -/
structure Target (σ : Type) where
  state : σ
  records : List Diagnostic

/-- A computation that writes and records as it goes along, and that may end with an error. -/
abbrev InPlace (σ : Type) := ExceptT FrameError (StateM (Target σ))

namespace InPlace

variable {σ τ α : Type}

/-- The result, and what is left of the target. -/
def on (x : InPlace σ α) (target : Target σ) : Except FrameError α × Target σ :=
  (x.run.run target).run

/-- The state as it stands. -/
def read : InPlace σ σ := do
  return (← get).state

def record (diagnostic : Diagnostic) : InPlace σ Unit :=
  modify fun target => { target with records := target.records ++ [diagnostic] }

/-- Writes to the state, and tells whether that changed it. -/
def write (f : σ → Tracked σ) : InPlace σ Bool := do
  let written := f (← read)
  modify fun target => { target with state := written.state }
  return written.changed

/-- Takes two steps, and tells whether one of them changed the state. -/
def both (first second : InPlace σ Bool) : InPlace σ Bool := do
  let changed ← first
  let changedAfter ← second
  return changed || changedAfter

/-- Records why a packet is left alone. -/
def refuse (model : Model) (reason : Refusal) : InPlace σ Bool := do
  record (.refused model reason)
  return false

/-- Works on a part of the state, which is put back as it was left. -/
def within (part : τ) (put : τ → σ → σ) (x : InPlace τ α) : InPlace σ α :=
  ExceptT.mk fun target =>
    let (result, left) := x.on ⟨part, target.records⟩
    pure (result, ⟨put left.state target.state, left.records⟩)

end InPlace
end Fieldbus
