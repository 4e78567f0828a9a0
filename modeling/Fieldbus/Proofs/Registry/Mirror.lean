import Fieldbus.Proofs.Registry.Replay

/-!
# What subscribers see is what the registry holds

A subscriber who folds the events of a run has one sighting for each discoverable device that is
held. The registry decides by its devices what to tell, the sightings are made from the events
alone; what couples the two is the life of the device (`Mirrors`).
-/
namespace Fieldbus

/-! ## Folding events -/

/-- What a subscriber knows of a device: its model, and how it was when it last changed. -/
structure Sighting where
  model : Model
  snapshot : Option Device

namespace Sightings

def note (seen : Dictionary Sighting) : Event → Dictionary Sighting
  | .added serial model => seen.insert serial ⟨model, none⟩
  | .changed serial d =>
    match seen.find? serial with
    | some sighting => seen.insert serial { sighting with snapshot := some d }
    | none => seen
  | .removed serial => seen.erase serial
  | .unknown .. => seen

def ofEvents (events : List Event) : Dictionary Sighting :=
  events.foldl note .empty

variable {key : String} {seen : Dictionary Sighting} {events : List Event}

theorem ofEvents_concat (events : List Event) (e : Event) :
    ofEvents (events ++ [e]) = note (ofEvents events) e := by
  simp [ofEvents]

theorem find?_note_of_ne {e : Event} (h : e.serial ≠ key) :
    (note seen e).find? key = seen.find? key := by
  cases e with
  | added serial model => exact Dictionary.find?_insert_of_ne _ _ (Ne.symm h)
  | changed serial d =>
      simp only [note]
      split
      · exact Dictionary.find?_insert_of_ne _ _ (Ne.symm h)
      · rfl
  | removed serial =>
      rw [note, Dictionary.find?_erase]
      exact if_neg (Ne.symm h)
  | unknown => rfl

theorem find?_note_changed (d : Device) :
    (note seen (.changed key d)).find? key
      = (seen.find? key).map fun sighting => { sighting with snapshot := some d } := by
  simp only [note]
  cases h : seen.find? key with
  | some sighting => exact Dictionary.find?_insert_self _ _ _
  | none => exact h

theorem find?_ofEvents_append_of_ne {more : List Event} (h : ∀ e ∈ more, e.serial ≠ key) :
    (ofEvents (events ++ more)).find? key = (ofEvents events).find? key := by
  induction more generalizing events with
  | nil => rw [List.append_nil]
  | cons e more ih =>
      obtain ⟨he, hmore⟩ := List.forall_mem_cons.mp h
      rw [List.append_cons, ih hmore, ofEvents_concat, find?_note_of_ne he]

end Sightings

/-- The snapshots told under a key since the device there last came or went. -/
def Snapshots.note (key : String) (told : List Device) : Event → List Device
  | .changed serial d => if serial = key then told ++ [d] else told
  | .added serial _ | .removed serial => if serial = key then [] else told
  | .unknown .. => told

def Snapshots.ofEvents (key : String) (events : List Event) : List Device :=
  events.foldl (note key) []

namespace Snapshots

variable {key : String} {events : List Event}

theorem ofEvents_concat (key : String) (events : List Event) (e : Event) :
    ofEvents key (events ++ [e]) = note key (ofEvents key events) e := by
  simp [ofEvents]

theorem ofEvents_append_of_ne {more : List Event} (h : ∀ e ∈ more, e.serial ≠ key) :
    ofEvents key (events ++ more) = ofEvents key events := by
  induction more generalizing events with
  | nil => rw [List.append_nil]
  | cons e more ih =>
      obtain ⟨he, hmore⟩ := List.forall_mem_cons.mp h
      rw [List.append_cons, ih hmore, ofEvents_concat]
      cases e with
      | unknown => rfl
      | _ => exact if_neg he

end Snapshots

/-! ## The states of a life -/

theorem destutter'_concat {α : Type} [DecidableEq α] (a b : α) (l : List α) :
    (l ++ [b]).destutter' (· ≠ ·) a
      = l.destutter' (· ≠ ·) a ++ if b = l.getLastD a then [] else [b] := by
  induction l generalizing a with
  | nil =>
      by_cases h : b = a
      · simp [h]
      · simp [h, Ne.symm h]
  | cons c l ih =>
      rw [List.cons_append, List.getLastD_cons]
      by_cases h : a ≠ c
      · rw [List.destutter'_cons_pos _ h, List.destutter'_cons_pos _ h, ih, List.cons_append]
      · obtain rfl := Classical.not_not.mp h
        rw [List.destutter'_cons_neg _ h, List.destutter'_cons_neg _ h, ih]

namespace Life

/-- A device that has just been made by a packet, before the packet is taken in. -/
def ofConfiguration (config : Configuration) : Life :=
  ⟨config, []⟩

theorem device_property {α : Type} (f : Device → α) (hdecode : ∀ d p, f (d.decode p).1 = f d)
    (hclear : ∀ d, f (d.setUpdated false) = f d) (life : Life) : f life.device = f life.fresh := by
  rw [device, hclear]
  generalize life.fresh = d
  induction life.packets generalizing d with
  | nil => rfl
  | cons p packets ih => exact (ih _).trans (hdecode d p)

theorem model_device (life : Life) : life.device.model = life.fresh.model :=
  life.device_property (·.model) Device.model_decode fun _ => rfl

theorem isDiscoverable_device (life : Life) :
    life.device.isDiscoverable = life.fresh.isDiscoverable :=
  life.device_property (·.isDiscoverable) Device.isDiscoverable_decode fun _ => rfl

theorem device_ofConfiguration (config : Configuration) :
    (ofConfiguration config).device = .ofConfiguration config :=
  Device.setUpdated_of_updated (Device.updated_ofConfiguration config)

/-- Only a device that can be read ever changes. -/
theorem isDiscoverable_of_updated {life : Life} {p : Packet}
    (h : (life.device.decode p).1.updated = true) : life.fresh.isDiscoverable = true := by
  rw [← isDiscoverable_device]
  apply Bool.of_not_eq_false
  intro hno
  rw [Device.decode_of_not_discoverable hno] at h
  cases h

theorem states_eq (life : Life) :
    ∃ later, life.states = life.fresh.channels :: later ∧
      later.getLastD life.fresh.channels = life.device.channels := by
  have hhead : life.states.head? = some life.fresh.channels := by
    rw [states, List.head?_map, List.head?_scanl, Option.map_some]
  have hlast : life.states.getLast? = some life.device.channels := by
    rw [states, List.getLast?_map, List.getLast?_scanl, Option.map_some]
    rfl
  obtain ⟨later, hstates⟩ := List.head?_eq_some_iff.mp hhead
  rw [hstates, List.getLast?_cons, ← List.getLastD_eq_getLast?] at hlast
  exact ⟨later, hstates, Option.some.inj hlast⟩

theorem states_hear (life : Life) (p : Packet) :
    (life.hear p).states = life.states ++ [(life.device.decode p).1.channels] := by
  rw [device, Device.channels_decode_setUpdated]
  simp only [states, hear, List.scanl_append, List.map_append, List.scanl_singleton,
    List.tail_cons, List.map_cons, List.map_nil]
  rfl

/-- A packet adds a change to the life if it leaves the device in another state. -/
theorem changes_hear (life : Life) (p : Packet) :
    (life.hear p).changes
      = life.changes ++ if (life.device.decode p).1.channels = life.device.channels then []
          else [(life.device.decode p).1.channels] := by
  obtain ⟨later, hstates, hlast⟩ := life.states_eq
  rw [changes, changes, states_hear, hstates, List.cons_append, List.destutter_cons',
    List.destutter_cons', destutter'_concat, hlast]
  exact List.tail_append_of_ne_nil (List.destutter'_ne_nil _ _)

end Life

/-! ## Coupling -/

/-- Nothing is known of a key. -/
structure Unseen (key : String) (events : List Event) : Prop where
  seen : (Sightings.ofEvents events).find? key = none
  told : Snapshots.ofEvents key events = []

/-- All is known of the life under a key. -/
structure Shown (key : String) (events : List Event) (life : Life) : Prop where
  seen : (Sightings.ofEvents events).find? key
    = if life.fresh.isDiscoverable then
        some ⟨life.fresh.model, (Snapshots.ofEvents key events).getLast?⟩
      else none
  changes : (Snapshots.ofEvents key events).map (·.channels) = life.changes
  last : ∀ d, (Snapshots.ofEvents key events).getLast? = some d → d = life.device.setUpdated true
  unchanged : Snapshots.ofEvents key events = [] → life.device.channels = life.fresh.channels

/-- What is known of a key from the events, beside the life that is led there. -/
structure Mirrors (key : String) (events : List Event) (life? : Option Life) : Prop where
  unseen : life? = none → Unseen key events
  shown : ∀ life, life? = some life → Shown key events life

section

variable {key : String} {events : List Event} {life : Life} {life? : Option Life}

theorem Unseen.append_of_ne (h : Unseen key events) {more : List Event}
    (hmore : ∀ e ∈ more, e.serial ≠ key) : Unseen key (events ++ more) :=
  ⟨(Sightings.find?_ofEvents_append_of_ne hmore).trans h.seen,
    (Snapshots.ofEvents_append_of_ne hmore).trans h.told⟩

theorem Shown.append_of_ne (h : Shown key events life) {more : List Event}
    (hmore : ∀ e ∈ more, e.serial ≠ key) : Shown key (events ++ more) life := by
  have htold : Snapshots.ofEvents key (events ++ more) = Snapshots.ofEvents key events :=
    Snapshots.ofEvents_append_of_ne hmore
  refine ⟨?_, ?_, ?_, ?_⟩
  · rw [Sightings.find?_ofEvents_append_of_ne hmore, htold]
    exact h.seen
  · rw [htold]
    exact h.changes
  · rw [htold]
    exact h.last
  · rw [htold]
    exact h.unchanged

theorem Unseen.unknown (h : Unseen key events) (address : Address) :
    Unseen key (events ++ [.unknown key address]) := by
  constructor
  · rw [Sightings.ofEvents_concat]
    exact h.seen
  · rw [Snapshots.ofEvents_concat]
    exact h.told

theorem unseen_of_removed (key : String) (events : List Event) :
    Unseen key (events ++ [.removed key]) := by
  constructor
  · rw [Sightings.ofEvents_concat, Sightings.note, Dictionary.find?_erase, if_pos rfl]
  · rw [Snapshots.ofEvents_concat, Snapshots.note, if_pos rfl]

/-- A device that is made is seen exactly if it is announced. -/
theorem Unseen.born (h : Unseen key events) (config : Configuration) :
    Shown key (events ++ Registry.announcement key (.ofConfiguration config) true)
      (.ofConfiguration config) := by
  have htold : Snapshots.ofEvents key
      (events ++ Registry.announcement key (.ofConfiguration config) true) = [] := by
    unfold Registry.announcement
    split
    · rw [Snapshots.ofEvents_concat, Snapshots.note, if_pos rfl]
    · rw [List.append_nil]
      exact h.told
  refine ⟨?_, ?_, ?_, ?_⟩
  · rw [htold]
    unfold Registry.announcement
    cases hd : (Device.ofConfiguration config).isDiscoverable with
    | true =>
        rw [Bool.true_and, if_pos rfl, Sightings.ofEvents_concat]
        simp only [Life.fresh, Life.ofConfiguration, hd]
        exact Dictionary.find?_insert_self _ _ _
    | false =>
        rw [Bool.true_and, if_neg Bool.false_ne_true, List.append_nil]
        simp only [Life.fresh, Life.ofConfiguration, hd]
        exact h.seen
  · rw [htold]
    rfl
  · rw [htold]
    intro d hd
    cases hd
  · intro _
    rfl

/-- The device takes a packet in, and the change is told if there is one. -/
theorem Shown.hear (h : Shown key events life) (p : Packet) :
    Shown key
      (events ++ if (life.device.decode p).1.updated then [.changed key (life.device.decode p).1]
        else [])
      (life.hear p) := by
  have hupdated := Device.updated_decode_iff life.device p
  rw [Life.updated_device] at hupdated
  -- a device that is held is not marked, so the mark tells of this packet alone
  by_cases hsame : (life.device.decode p).1.channels = life.device.channels
  · have hquiet : ¬ (life.device.decode p).1.updated = true := by simp [hupdated, hsame]
    have hdevice : (life.hear p).device = life.device := by
      rw [Life.device_hear, Device.decode_of_channels_eq hsame]
      rfl
    rw [if_neg hquiet, List.append_nil]
    refine ⟨h.seen, ?_, ?_, ?_⟩
    · rw [Life.changes_hear, if_pos hsame, List.append_nil]
      exact h.changes
    · rw [hdevice]
      exact h.last
    · rw [hdevice]
      exact h.unchanged
  · have hloud : (life.device.decode p).1.updated = true := by simp [hupdated, hsame]
    have hdiscoverable := Life.isDiscoverable_of_updated hloud
    have htold : Snapshots.ofEvents key
        (events ++ [.changed key (life.device.decode p).1])
        = Snapshots.ofEvents key events ++ [(life.device.decode p).1] := by
      rw [Snapshots.ofEvents_concat, Snapshots.note, if_pos rfl]
    rw [if_pos hloud]
    refine ⟨?_, ?_, ?_, ?_⟩
    · rw [htold, List.getLast?_concat, Sightings.ofEvents_concat, Sightings.find?_note_changed,
        h.seen, if_pos hdiscoverable, Option.map_some]
      exact (if_pos hdiscoverable).symm
    · rw [htold, List.map_append, h.changes, Life.changes_hear, if_neg hsame]
      rfl
    · intro d hd
      rw [htold, List.getLast?_concat] at hd
      obtain rfl := Option.some.inj hd
      rw [Life.device_hear, Device.setUpdated_setUpdated, Device.setUpdated_of_updated hloud]
    · intro hnone
      rw [htold] at hnone
      exact absurd hnone (List.append_ne_nil_of_right_ne_nil _ (List.cons_ne_nil _ _))

/-! ## Runs -/

theorem Mirrors.of_unseen (h : Unseen key events) : Mirrors key events none :=
  ⟨fun _ => h, nofun⟩

theorem Mirrors.of_shown (h : Shown key events life) : Mirrors key events (some life) := by
  refine ⟨nofun, fun _ hlife => ?_⟩
  cases hlife
  exact h

theorem Mirrors.packet {r : Registry} {h : History} (p : Packet)
    (hm : Mirrors (Serial.normalize p.serial) events (h.life? (Serial.normalize p.serial)))
    (ht : Tracks (Serial.normalize p.serial) r h) :
    Mirrors (Serial.normalize p.serial) (events ++ (r.dispatch p).events)
      ((h.note (Serial.normalize p.serial) (.packet p)).life? (Serial.normalize p.serial)) := by
  rcases ht.packet_cases with ⟨hlife, hlife', hr⟩ | ⟨config, hlife, hlife', hr⟩ |
    ⟨life, hlife, hlife', hr⟩
  · rw [hlife', Registry.dispatch_of_unknown hr]
    exact .of_unseen ((hm.unseen hlife).unknown p.address)
  · -- the device is made as if before the packet, which it then takes in like any other
    have hshown := ((hm.unseen hlife).born config).hear p
    rw [Life.device_ofConfiguration, List.append_assoc] at hshown
    rw [hlife', Registry.dispatch_of_resolved hr]
    exact .of_shown hshown
  · rw [hlife', Registry.dispatch_of_resolved hr, Registry.announcement_of_held, List.nil_append]
    exact .of_shown ((hm.shown life hlife).hear p)

theorem Mirrors.remove {r : Registry} {h : History} (serial : String)
    (hm : Mirrors (Serial.normalize serial) events (h.life? (Serial.normalize serial)))
    (ht : Tracks (Serial.normalize serial) r h) :
    Mirrors (Serial.normalize serial) (events ++ (r.remove serial).2)
      ((h.note (Serial.normalize serial) (.remove serial)).life? (Serial.normalize serial)) := by
  have hheld := ht.held
  rw [History.life?_remove]
  cases hlife : h.life? (Serial.normalize serial) with
  | none =>
      rw [hlife] at hheld
      rw [Registry.remove_of_not_held hheld, List.append_nil]
      exact .of_unseen (hm.unseen hlife)
  | some life =>
      rw [hlife] at hheld
      rw [Registry.remove_of_held hheld]
      exact .of_unseen (unseen_of_removed _ events)

theorem Mirrors.step {r : Registry} {h : History} (hm : Mirrors key events (h.life? key))
    (ht : Tracks key r h) (op : Operation) :
    Mirrors key (events ++ (r.step op).2) ((h.note key op).life? key) := by
  by_cases hop : op.Concerns key
  · cases op with
    | packet p =>
        subst hop
        simp only [Registry.step]
        exact Mirrors.packet p hm ht
    | remove serial =>
        subst hop
        simp only [Registry.step]
        exact Mirrors.remove serial hm ht
    | configure configurations =>
        rw [Registry.step, List.append_nil]
        exact hm
  · have hothers : ∀ e ∈ (r.step op).2, e.serial ≠ key :=
      fun e => Registry.serial_ne_of_mem_step hop
    rw [History.note_of_not_concerns hop]
    exact ⟨fun hlife => (hm.unseen hlife).append_of_ne hothers,
      fun life hlife => (hm.shown life hlife).append_of_ne hothers⟩

theorem Mirrors.ofRun (key : String) (initial : List Configuration) (ops : List Operation) :
    Mirrors key (Registry.told initial ops) ((History.ofRun key initial ops).life? key) := by
  induction ops using List.reverseRecOn with
  | nil =>
      rw [History.life?_of_heard_nil _ rfl]
      exact .of_unseen ⟨rfl, rfl⟩
  | append_singleton ops op ih =>
      rw [Registry.told_concat, History.ofRun_concat]
      exact ih.step (Tracks.ofRun key initial ops) op

/-- Discoverable devices that are held are seen, and no others. -/
theorem Sightings.seen_iff (key : String) (initial : List Configuration) (ops : List Operation) :
    (Sightings.ofEvents (Registry.told initial ops)).find? key ≠ none ↔
      ∃ d, (Registry.ofRun initial ops).devices.find? key = some d ∧ d.isDiscoverable = true := by
  have hm := Mirrors.ofRun key initial ops
  rw [(Tracks.ofRun key initial ops).held]
  cases hlife : (History.ofRun key initial ops).life? key with
  | none => simp [(hm.unseen hlife).seen]
  | some life =>
      rw [(hm.shown life hlife).seen]
      simp [Life.isDiscoverable_device]

end

/-! ## No change of an unseen device -/

/-- Each change is told of a device that is seen at that point. -/
inductive Warranted : Dictionary Sighting → List Event → Prop
  | nil {seen} : Warranted seen []
  | cons {seen e events} : (e.isStateChange = true → seen.find? e.serial ≠ none) →
      Warranted (Sightings.note seen e) events → Warranted seen (e :: events)

namespace Warranted

variable {seen : Dictionary Sighting} {e : Event} {events more : List Event}

theorem one (h : e.isStateChange = true → seen.find? e.serial ≠ none) : Warranted seen [e] :=
  .cons h .nil

theorem append (h : Warranted seen events) (hmore : Warranted (events.foldl Sightings.note seen) more) :
    Warranted seen (events ++ more) := by
  induction h with
  | nil => exact hmore
  | cons he _ ih => exact .cons he (ih hmore)

theorem of_append (h : Warranted seen (events ++ e :: more)) (he : e.isStateChange = true) :
    (events.foldl Sightings.note seen).find? e.serial ≠ none := by
  induction events generalizing seen with
  | nil =>
      cases h with
      | cons h _ => exact h he
  | cons _ events ih =>
      cases h with
      | cons _ h => exact ih h

theorem announcement (seen : Dictionary Sighting) (key : String) (d : Device) (isNew : Bool) :
    Warranted seen (Registry.announcement key d isNew) := by
  unfold Registry.announcement
  split
  · exact .one fun h => (nomatch h)
  · exact .nil

end Warranted

theorem Shown.warranted {key : String} {events : List Event} {life : Life}
    (h : Shown key events life) (p : Packet) :
    Warranted (Sightings.ofEvents events)
      (if (life.device.decode p).1.updated then [.changed key (life.device.decode p).1]
        else []) := by
  split
  · rename_i hloud
    refine .one fun _ => ?_
    have hseen := h.seen
    rw [if_pos (Life.isDiscoverable_of_updated hloud)] at hseen
    exact Option.ne_none_iff_exists'.mpr ⟨_, hseen⟩
  · exact .nil

theorem Mirrors.warranted_packet {r : Registry} {h : History} {events : List Event} (p : Packet)
    (hm : Mirrors (Serial.normalize p.serial) events (h.life? (Serial.normalize p.serial)))
    (ht : Tracks (Serial.normalize p.serial) r h) :
    Warranted (Sightings.ofEvents events) (r.dispatch p).events := by
  rcases ht.packet_cases with ⟨hlife, -, hr⟩ | ⟨config, hlife, -, hr⟩ | ⟨life, hlife, -, hr⟩
  · rw [Registry.dispatch_of_unknown hr]
    exact .one fun h => (nomatch h)
  · have hborn := ((hm.unseen hlife).born config).warranted p
    rw [Life.device_ofConfiguration, Sightings.ofEvents, List.foldl_append] at hborn
    rw [Registry.dispatch_of_resolved hr]
    exact (Warranted.announcement _ _ _ _).append hborn
  · rw [Registry.dispatch_of_resolved hr, Registry.announcement_of_held, List.nil_append]
    exact (hm.shown life hlife).warranted p

theorem Warranted.remove (seen : Dictionary Sighting) (r : Registry) (serial : String) :
    Warranted seen (r.remove serial).2 := by
  cases hd : r.devices.find? (Serial.normalize serial) with
  | none =>
      rw [Registry.remove_of_not_held hd]
      exact .nil
  | some d =>
      rw [Registry.remove_of_held hd]
      exact .one fun h => (nomatch h)

theorem Warranted.told (initial : List Configuration) (ops : List Operation) :
    Warranted .empty (Registry.told initial ops) := by
  induction ops using List.reverseRecOn with
  | nil => exact .nil
  | append_singleton ops op ih =>
      rw [Registry.told_concat]
      refine ih.append ?_
      cases op with
      | packet p =>
          simp only [Registry.step]
          exact Mirrors.warranted_packet p (.ofRun _ initial ops) (.ofRun _ initial ops)
      | remove serial => exact .remove _ _ serial
      | configure configurations => exact .nil

/-! ## The main statement -/

/-- Sightings are exactly the discoverable devices that are held. A snapshot is the device but for
the mark of the change; without one the device is as it was made. A change is told only of a device
that is seen, and the snapshots of a life are its changes, each once. Since this holds after every
run, it holds of every life at each of its moments, the last before a removal included. -/
theorem Registry.sightings_told (initial : List Configuration) (ops : List Operation) :
    (∀ key, (Sightings.ofEvents (told initial ops)).find? key ≠ none ↔
      ∃ d, (ofRun initial ops).devices.find? key = some d ∧ d.isDiscoverable = true) ∧
    (∀ key sighting d, (Sightings.ofEvents (told initial ops)).find? key = some sighting →
      (ofRun initial ops).devices.find? key = some d →
      sighting.model = d.model ∧
      (∀ s, sighting.snapshot = some s → s = d.setUpdated true ∧ d.updated = false) ∧
      (sighting.snapshot = none → ∃ life,
        (History.ofRun key initial ops).life? key = some life ∧
          d.channels = life.fresh.channels)) ∧
    (∀ before key d later, told initial ops = before ++ .changed key d :: later →
      (Sightings.ofEvents before).find? key ≠ none) ∧
    (∀ key life, (History.ofRun key initial ops).life? key = some life →
      (Snapshots.ofEvents key (told initial ops)).map (·.channels) = life.changes) := by
  refine ⟨fun key => Sightings.seen_iff key initial ops, fun key sighting d hs hd => ?_,
    fun before key d later htold => ?_, fun key life hlife => ?_⟩
  · rw [(Tracks.ofRun key initial ops).held] at hd
    obtain ⟨life, hlife, rfl⟩ := Option.map_eq_some_iff.mp hd
    have hshown := (Mirrors.ofRun key initial ops).shown life hlife
    rw [hshown.seen] at hs
    split at hs
    · obtain rfl := Option.some.inj hs
      refine ⟨life.model_device.symm, fun s hsnapshot => ⟨hshown.last s hsnapshot, rfl⟩,
        fun hnone => ?_⟩
      exact ⟨life, hlife, hshown.unchanged (List.getLast?_eq_none_iff.mp hnone)⟩
    · cases hs
  · have hwarranted := Warranted.told initial ops
    rw [htold] at hwarranted
    exact hwarranted.of_append rfl
  · exact ((Mirrors.ofRun key initial ops).shown life hlife).changes

end Fieldbus
