import Fieldbus.Proofs.Registry.Dispatch
import Mathlib.Data.List.Destutter

/-!
# Runs of a registry, and the history of one serial number

A run applies operations one after the other and publishes events on the way. Beside it stands what
an onlooker notes of a single key without any registry: the configurations in force, and the packets
heard under the key since it was last removed. From these notes follows the life of the device.
-/
namespace Fieldbus

/-! ## Runs -/

/-- What can be done to a registry. -/
inductive Operation where
  | packet (p : Packet)
  | remove (serial : String)
  | configure (configurations : List Configuration)

namespace Registry

/-- The registry after an operation, and the events that the operation publishes. -/
def step (r : Registry) : Operation → Registry × List Event
  | .packet p => ((r.dispatch p).registry, (r.dispatch p).events)
  | .remove serial => r.remove serial
  | .configure configurations => (r.withConfigurations configurations, [])

/-- The registry after a run. -/
def after (r : Registry) (ops : List Operation) : Registry :=
  ops.foldl (fun r op => (r.step op).1) r

/-- The registry after a run that starts with no device. -/
def ofRun (initial : List Configuration) (ops : List Operation) : Registry :=
  (ofConfigurations initial).after ops

/-- All events of a run in the order in which they are published. -/
def published (r : Registry) : List Operation → List Event
  | [] => []
  | op :: ops => (r.step op).2 ++ (r.step op).1.published ops

theorem published_append (r : Registry) (ops later : List Operation) :
    r.published (ops ++ later) = r.published ops ++ (r.after ops).published later := by
  induction ops generalizing r with
  | nil => rfl
  | cons op ops ih => simp [published, after, ih]

/-- All events of a run that starts with no device. -/
def told (initial : List Configuration) (ops : List Operation) : List Event :=
  (ofConfigurations initial).published ops

theorem told_concat (initial : List Configuration) (ops : List Operation) (op : Operation) :
    told initial (ops ++ [op]) = told initial ops ++ ((ofRun initial ops).step op).2 := by
  rw [told, published_append, published, published, List.append_nil]
  rfl

end Registry

/-! ## What concerns a key -/

/-- Whether an operation can matter to the device under a key. Packets and removals of other serial
numbers cannot. -/
def Operation.Concerns (key : String) : Operation → Prop
  | packet p => Serial.normalize p.serial = key
  | remove serial => Serial.normalize serial = key
  | configure _ => True

/-- The packet of an operation, if it is one under the key. -/
def Operation.packet? (key : String) : Operation → Option Packet
  | packet p => if Serial.normalize p.serial = key then some p else none
  | _ => none

instance (key : String) : DecidablePred (Operation.Concerns key)
  | .packet p => inferInstanceAs (Decidable (Serial.normalize p.serial = key))
  | .remove serial => inferInstanceAs (Decidable (Serial.normalize serial = key))
  | .configure _ => inferInstanceAs (Decidable True)

/-- What an operation does not concern is not told of either. -/
theorem Registry.serial_ne_of_mem_step {key : String} {op : Operation} (hop : ¬ op.Concerns key)
    {r : Registry} {e : Event} (he : e ∈ (r.step op).2) : e.serial ≠ key := by
  cases op with
  | packet p =>
      simp only [step] at he
      rw [serial_of_mem_dispatch he]
      exact hop
  | remove serial =>
      simp only [step] at he
      rw [serial_of_mem_remove he]
      exact hop
  | configure _ => cases he

/-- What is noted of a key: the configurations in force, and each packet heard under the key since
its last removal, with the configurations that were in force when it came. -/
structure History where
  configurations : List Configuration
  heard : List (List Configuration × Packet)

namespace History

def note (key : String) (h : History) : Operation → History
  | .packet p =>
    if Serial.normalize p.serial = key then { h with heard := h.heard ++ [(h.configurations, p)] }
    else h
  | .remove serial => if Serial.normalize serial = key then { h with heard := [] } else h
  | .configure configurations => { h with configurations }

/-- The notes after a run that starts with no device. -/
def ofRun (key : String) (initial : List Configuration) (ops : List Operation) : History :=
  ops.foldl (note key) ⟨initial, []⟩

theorem ofRun_concat (key : String) (initial : List Configuration) (ops : List Operation)
    (op : Operation) : ofRun key initial (ops ++ [op]) = (ofRun key initial ops).note key op := by
  simp [ofRun]

theorem note_packet (h : History) (p : Packet) :
    h.note (Serial.normalize p.serial) (.packet p)
      = { h with heard := h.heard ++ [(h.configurations, p)] } := by
  rw [note, if_pos rfl]

theorem note_remove (h : History) (serial : String) :
    h.note (Serial.normalize serial) (.remove serial) = { h with heard := [] } := by
  rw [note, if_pos rfl]

theorem note_of_not_concerns {key : String} {op : Operation} (hop : ¬ op.Concerns key)
    (h : History) : h.note key op = h := by
  cases op with
  | packet p =>
      rw [note]
      exact if_neg hop
  | remove serial =>
      rw [note]
      exact if_neg hop
  | configure _ => exact absurd trivial hop

/-- Notes are the same when what does not concern the key is passed over. -/
theorem foldl_note_filter (key : String) (ops : List Operation) (h : History) :
    (ops.filter fun op => op.Concerns key).foldl (note key) h = ops.foldl (note key) h := by
  induction ops generalizing h with
  | nil => rfl
  | cons op ops ih =>
      by_cases hop : op.Concerns key
      · rw [List.filter_cons_of_pos (by simpa using hop), List.foldl_cons, List.foldl_cons, ih]
      · rw [List.filter_cons_of_neg (by simpa using hop), List.foldl_cons, ih,
          note_of_not_concerns hop]

end History

/-! ## Lives -/

/-- A device from the packet that brought it up on: its configuration, and all its packets. -/
structure Life where
  config : Configuration
  packets : List Packet

namespace Life

/-- The device as it is made. -/
def fresh (life : Life) : Device :=
  .ofConfiguration life.config

/-- The device with all its packets taken in and the mark of a change cleared. -/
def device (life : Life) : Device :=
  (life.packets.foldl (fun d p => (d.decode p).1) life.fresh).setUpdated false

/-- The fresh state, and the state after each packet. -/
def states (life : Life) : List Channels :=
  (life.packets.scanl (fun d p => (d.decode p).1) life.fresh).map (·.channels)

/-- The states that follow the fresh one, each told from the one before it. -/
def changes (life : Life) : List Channels :=
  (life.states.destutter (· ≠ ·)).tail

/-- The life that packets lead to. It starts with the first of them that comes while some
configuration bears the key, and the first such configuration makes the device. -/
def ofHeard (key : String) : List (List Configuration × Packet) → Option Life
  | [] => none
  | (configs, p) :: later =>
    match configs.find? fun config => Serial.normalize config.serial = key with
    | some config => some ⟨config, p :: later.map (·.2)⟩
    | none => ofHeard key later

end Life

/-- The life under a key at the end of a run, if a device is alive there. Nobody lives under the
empty key, which packets and configurations without a serial number have. -/
def History.life? (key : String) (h : History) : Option Life :=
  if key = "" then none else Life.ofHeard key h.heard

namespace History

variable {key : String} {h : History} {life : Life}

theorem life?_of_ne (hne : key ≠ "") (h : History) : h.life? key = Life.ofHeard key h.heard :=
  if_neg hne

theorem life?_of_heard_nil (h : History) (hheard : h.heard = []) : h.life? key = none := by
  rw [life?, hheard]
  split <;> rfl

theorem life?_remove (h : History) (serial : String) :
    (h.note (Serial.normalize serial) (.remove serial)).life? (Serial.normalize serial) = none := by
  rw [note_remove]
  exact life?_of_heard_nil _ rfl

theorem ne_empty_of_life? (hlife : h.life? key = some life) : key ≠ "" := by
  rintro rfl
  cases hlife

end History
end Fieldbus
