import Fieldbus.Proofs.Device.Basic
import Fieldbus.Proofs.Registry.Dispatch
import Fieldbus.Proofs.Registry.History

/-!
# What is held under a key is the replay of its own history

The registry keeps devices, the history keeps packets. One step of a run keeps both in agreement
(`Tracks.step`), and so does a whole run. From there on only the history is looked at.
-/
namespace Fieldbus

/-! ## Longer lives -/

namespace Life

variable {key : String} {heard : List (List Configuration × Packet)} {life : Life}

/-- A device that is alive takes in what is heard later, whatever the configurations are then. -/
theorem ofHeard_append_of_some (h : ofHeard key heard = some life)
    (later : List (List Configuration × Packet)) :
    ofHeard key (heard ++ later)
      = some { life with packets := life.packets ++ later.map (·.2) } := by
  induction heard with
  | nil => cases h
  | cons first rest ih =>
      obtain ⟨configs, p⟩ := first
      simp only [List.cons_append, ofHeard] at h ⊢
      cases hc : configs.find? fun config => Serial.normalize config.serial = key with
      | none =>
          rw [hc] at h
          exact ih h
      | some config =>
          rw [hc] at h
          obtain rfl := Option.some.inj h
          simp

/-- Without a device the next packet brings one up if a configuration bears the key. -/
theorem ofHeard_append_of_none (h : ofHeard key heard = none) (configs : List Configuration)
    (p : Packet) :
    ofHeard key (heard ++ [(configs, p)])
      = (configs.find? fun config => Serial.normalize config.serial = key).map (⟨·, [p]⟩) := by
  induction heard with
  | nil =>
      simp only [List.nil_append, ofHeard]
      cases configs.find? fun config => Serial.normalize config.serial = key <;> rfl
  | cons first rest ih =>
      obtain ⟨earlier, q⟩ := first
      simp only [List.cons_append, ofHeard] at h ⊢
      cases hc : earlier.find? fun config => Serial.normalize config.serial = key with
      | none =>
          rw [hc] at h
          exact ih h
      | some config =>
          rw [hc] at h
          cases h

theorem updated_device (life : Life) : life.device.updated = false := rfl

/-- The life with one more packet. -/
def hear (life : Life) (p : Packet) : Life :=
  { life with packets := life.packets ++ [p] }

theorem device_hear (life : Life) (p : Packet) :
    (life.hear p).device = (life.device.decode p).1.setUpdated false := by
  simp only [device, hear, List.foldl_append, List.foldl_cons, List.foldl_nil,
    Device.setUpdated_decode_setUpdated]
  rfl

end Life

/-! ## Agreement -/

/-- A registry holds under a key what the notes on the key tell. -/
structure Tracks (key : String) (r : Registry) (h : History) : Prop where
  configurations : r.configurations = h.configurations
  held : r.devices.find? key = (h.life? key).map Life.device

namespace Tracks

variable {key : String} {r : Registry} {h : History}

/-- A packet finds nobody, brings a device up, or reaches the one that is alive. -/
theorem packet_cases {p : Packet} (ht : Tracks (Serial.normalize p.serial) r h) :
    (h.life? (Serial.normalize p.serial) = none ∧
      (h.note (Serial.normalize p.serial) (.packet p)).life? (Serial.normalize p.serial) = none ∧
      r.resolve? (Serial.normalize p.serial) = none) ∨
    (∃ config, h.life? (Serial.normalize p.serial) = none ∧
      (h.note (Serial.normalize p.serial) (.packet p)).life? (Serial.normalize p.serial)
        = some ⟨config, [p]⟩ ∧
      r.resolve? (Serial.normalize p.serial) = some (.ofConfiguration config, true)) ∨
    (∃ life, h.life? (Serial.normalize p.serial) = some life ∧
      (h.note (Serial.normalize p.serial) (.packet p)).life? (Serial.normalize p.serial)
        = some (life.hear p) ∧
      r.resolve? (Serial.normalize p.serial) = some (life.device, false)) := by
  have hnorm := Serial.normalize_normalize p.serial
  rw [History.note_packet]
  generalize Serial.normalize p.serial = key at ht hnorm ⊢
  by_cases hne : key = ""
  · subst hne
    exact .inl ⟨rfl, rfl, Registry.resolve?_empty r⟩
  have hheld := ht.held
  simp only [History.life?_of_ne hne] at hheld ⊢
  cases hlife : Life.ofHeard key h.heard with
  | some life =>
      rw [hlife, Option.map_some] at hheld
      exact .inr (.inr ⟨life, rfl, Life.ofHeard_append_of_some hlife _,
        Registry.resolve?_of_held hne hheld⟩)
  | none =>
      rw [hlife, Option.map_none] at hheld
      have hlife' := Life.ofHeard_append_of_none hlife h.configurations p
      have hresolve := Registry.resolve?_of_not_held hne hnorm hheld
      rw [ht.configurations] at hresolve
      cases hc : h.configurations.find? fun config => Serial.normalize config.serial = key with
      | none =>
          rw [hc] at hlife' hresolve
          exact .inl ⟨rfl, hlife', hresolve⟩
      | some config =>
          rw [hc] at hlife' hresolve
          exact .inr (.inl ⟨config, rfl, hlife', hresolve⟩)

theorem packet (ht : Tracks key r h) (p : Packet) :
    Tracks key (r.dispatch p).registry (h.note key (.packet p)) := by
  by_cases hp : Serial.normalize p.serial = key
  · subst hp
    have hconfigs : (h.note (Serial.normalize p.serial) (.packet p)).configurations
        = h.configurations := by
      rw [History.note_packet]
    refine ⟨((Registry.configurations_dispatch r p).trans ht.configurations).trans hconfigs.symm, ?_⟩
    rcases ht.packet_cases with ⟨hlife, hlife', hr⟩ | ⟨config, -, hlife', hr⟩ | ⟨life, -, hlife', hr⟩
    · rw [Registry.dispatch_of_unknown hr, ht.held, hlife, hlife']
    · rw [hlife', Registry.find?_dispatch_of_resolved hr]
      rfl
    · rw [hlife', Registry.find?_dispatch_of_resolved hr, ← Life.device_hear]
      rfl
  · have hother : ¬ (Operation.packet p).Concerns key := hp
    rw [History.note_of_not_concerns hother]
    exact ⟨(Registry.configurations_dispatch r p).trans ht.configurations,
      (Registry.find?_dispatch_of_ne hp).trans ht.held⟩

theorem remove (ht : Tracks key r h) (serial : String) :
    Tracks key (r.remove serial).1 (h.note key (.remove serial)) := by
  by_cases hs : Serial.normalize serial = key
  · subst hs
    refine ⟨?_, ?_⟩
    · rw [History.note_remove]
      exact (Registry.configurations_remove r serial).trans ht.configurations
    · rw [History.life?_remove]
      exact Registry.find?_remove_self r serial
  · have hother : ¬ (Operation.remove serial).Concerns key := hs
    rw [History.note_of_not_concerns hother]
    exact ⟨(Registry.configurations_remove r serial).trans ht.configurations,
      (Registry.find?_remove_of_ne hs).trans ht.held⟩

theorem step (ht : Tracks key r h) (op : Operation) :
    Tracks key (r.step op).1 (h.note key op) := by
  cases op with
  | packet p =>
      simp only [Registry.step]
      exact ht.packet p
  | remove serial =>
      simp only [Registry.step]
      exact ht.remove serial
  | configure configurations => exact ⟨rfl, ht.held⟩

theorem run (ht : Tracks key r h) (ops : List Operation) :
    Tracks key (r.after ops) (ops.foldl (History.note key) h) := by
  induction ops generalizing r h with
  | nil => exact ht
  | cons op ops ih => exact ih (ht.step op)

/-- A registry that has heard nothing agrees with empty notes. -/
theorem ofConfigurations (key : String) (initial : List Configuration) :
    Tracks key (.ofConfigurations initial) ⟨initial, []⟩ := by
  refine ⟨rfl, ?_⟩
  rw [History.life?_of_heard_nil _ rfl]
  rfl

theorem ofRun (key : String) (initial : List Configuration) (ops : List Operation) :
    Tracks key (.ofRun initial ops) (.ofRun key initial ops) :=
  (ofConfigurations key initial).run ops

end Tracks

/-! ## Packets after the first -/

/-- Until the key is removed, the notes only grow by the packets under the key. -/
theorem History.heard_of_no_removal {key : String} {ops : List Operation}
    (hkeep : ∀ serial, .remove serial ∈ ops → Serial.normalize serial ≠ key) (h : History) :
    ∃ later, (ops.foldl (note key) h).heard = h.heard ++ later ∧
      later.map (·.2) = ops.filterMap (Operation.packet? key) := by
  induction ops generalizing h with
  | nil => exact ⟨[], by simp⟩
  | cons op ops ih =>
      obtain ⟨later, hheard, hpackets⟩ :=
        ih (fun serial hs => hkeep serial (List.mem_cons_of_mem _ hs)) (h.note key op)
      rw [List.foldl_cons, hheard]
      cases op with
      | packet p =>
          by_cases hp : Serial.normalize p.serial = key
          · exact ⟨(h.configurations, p) :: later, by simp [note, hp],
              by simp [Operation.packet?, hp, hpackets]⟩
          · exact ⟨later, by simp [note, hp], by simp [Operation.packet?, hp, hpackets]⟩
      | remove serial =>
          have hs := hkeep serial List.mem_cons_self
          exact ⟨later, by simp [note, hs], hpackets.trans (List.filterMap_cons_none rfl).symm⟩
      | configure configurations =>
          exact ⟨later, rfl, hpackets.trans (List.filterMap_cons_none rfl).symm⟩

theorem History.life?_of_no_removal {key : String} {ops : List Operation} {h : History} {life : Life}
    (hlife : h.life? key = some life)
    (hkeep : ∀ serial, .remove serial ∈ ops → Serial.normalize serial ≠ key) :
    (ops.foldl (note key) h).life? key
      = some { life with packets := life.packets ++ ops.filterMap (Operation.packet? key) } := by
  have hne := ne_empty_of_life? hlife
  obtain ⟨later, hheard, hpackets⟩ := heard_of_no_removal hkeep h
  rw [life?_of_ne hne] at hlife ⊢
  rw [hheard, Life.ofHeard_append_of_some hlife, hpackets]

/-! ## The main statement -/

/-- What is held under a normalized serial number replays the history of that number. Other serial
numbers have no part in it, nor has a change of the configurations while the device is alive. -/
theorem Registry.device?_ofRun (initial : List Configuration) (serial : String) :
    (∀ ops, (ofRun initial ops).device? (Serial.normalize serial)
      = ((History.ofRun (Serial.normalize serial) initial ops).life? (Serial.normalize serial)).map
          Life.device) ∧
    (∀ ops, (ofRun initial ops).device? (Serial.normalize serial)
      = (ofRun initial (ops.filter fun op => op.Concerns (Serial.normalize serial))).device?
          (Serial.normalize serial)) ∧
    (∀ before configurations later,
      (ofRun initial before).device? (Serial.normalize serial) ≠ none →
      (∀ other, .remove other ∈ later → Serial.normalize other ≠ Serial.normalize serial) →
      (ofRun initial (before ++ .configure configurations :: later)).device?
          (Serial.normalize serial)
        = (ofRun initial (before ++ later)).device? (Serial.normalize serial)) := by
  have hnorm := Serial.normalize_normalize serial
  generalize Serial.normalize serial = key at hnorm ⊢
  have hreplay : ∀ ops, (ofRun initial ops).device? key
      = ((History.ofRun key initial ops).life? key).map Life.device := by
    intro ops
    rw [device?, hnorm]
    exact (Tracks.ofRun key initial ops).held
  refine ⟨hreplay, fun ops => ?_, fun before configurations later hheld hkeep => ?_⟩
  · rw [hreplay, hreplay, History.ofRun, History.ofRun, History.foldl_note_filter]
  · rw [hreplay] at hheld
    obtain ⟨life, hlife⟩ : ∃ life, (History.ofRun key initial before).life? key = some life :=
      Option.ne_none_iff_exists'.mp fun hnone => hheld (by rw [hnone, Option.map_none])
    rw [hreplay, hreplay]
    have hreplaced : ((History.ofRun key initial before).note key
        (.configure configurations)).life? key = some life := hlife
    simp only [History.ofRun, List.foldl_append, List.foldl_cons] at hlife hreplaced ⊢
    rw [History.life?_of_no_removal hlife hkeep, History.life?_of_no_removal hreplaced hkeep]

end Fieldbus
