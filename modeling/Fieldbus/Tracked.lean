/-!
# Changes that are noticed

A store that reports whether it changed anything, so that a frame that repeats what is known stays
silent.
-/
namespace Fieldbus

/-- A state after some stores, with whether one of them changed it. -/
structure Tracked (σ : Type) where
  state : σ
  changed : Bool
  deriving Repr

namespace Tracked

variable {σ τ α : Type}

/-- Nothing stored yet. -/
def start (s : σ) : Tracked σ :=
  ⟨s, false⟩

/-- A further store. A change is never forgotten. -/
def andThen (t : Tracked σ) (f : σ → Tracked σ) : Tracked σ :=
  let u := f t.state
  ⟨u.state, t.changed || u.changed⟩

def map (f : σ → τ) (t : Tracked σ) : Tracked τ :=
  ⟨f t.state, t.changed⟩

/-- Stores a value in a slot, unless the slot holds an equal one. -/
def put [BEq α] (slot : Option α) (value : α) : Tracked (Option α) :=
  if slot == some value then ⟨slot, false⟩ else ⟨some value, true⟩

/-- Stores values in slots place by place. Slots without a value stay as they are. -/
def putAll [BEq α] : List (Option α) → List α → Tracked (List (Option α))
  | slot :: slots, value :: values =>
    let first := put slot value
    let rest := putAll slots values
    ⟨first.state :: rest.state, first.changed || rest.changed⟩
  | slots, _ => start slots

end Tracked
end Fieldbus
