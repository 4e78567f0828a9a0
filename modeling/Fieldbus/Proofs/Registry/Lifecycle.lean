import Fieldbus.Proofs.Device.Run
import Fieldbus.Proofs.Registry.Mirror

/-!
# Comings and goings

A device is announced only if it can be read, but whatever is held is reported as removed. So under
one key the two kinds of events alternate as long as nothing is removed that was not announced.
-/
namespace Fieldbus

/-! ## Alternation -/

def Event.isAdded : Event → Bool
  | added .. => true
  | _ => false

/-- The comings and goings under a key. -/
def Event.lifecycle (key : String) (events : List Event) : List Event :=
  events.filter fun e => e.isLifecycle ∧ e.serial = key

/-- Comings stand at the even places and goings at the odd ones, the first place being zero. -/
def Alternates (events : List Event) : Prop :=
  ∀ i e, events[i]? = some e → (e.isAdded = true ↔ i % 2 = 0)

theorem alternates_concat {events : List Event} {e : Event} :
    Alternates (events ++ [e]) ↔ Alternates events ∧ (e.isAdded = true ↔ events.length % 2 = 0) := by
  constructor
  · intro h
    refine ⟨fun i other hi => h i other ?_, h _ e (by simp)⟩
    rw [List.getElem?_append_left (List.getElem?_eq_some_iff.mp hi).1]
    exact hi
  · rintro ⟨hevents, he⟩ i other hi
    rcases Nat.lt_trichotomy i events.length with hlt | rfl | hgt
    · rw [List.getElem?_append_left hlt] at hi
      exact hevents i other hi
    · rw [List.getElem?_concat_length] at hi
      obtain rfl := Option.some.inj hi
      exact he
    · rw [List.getElem?_eq_none (by simp; omega)] at hi
      cases hi

namespace Event

variable {key : String} {events : List Event} {e : Event}

theorem lifecycle_append (key : String) (events more : List Event) :
    lifecycle key (events ++ more) = lifecycle key events ++ lifecycle key more :=
  List.filter_append ..

theorem lifecycle_of_ne (h : ∀ e ∈ events, e.serial ≠ key) : lifecycle key events = [] := by
  refine List.filter_eq_nil_iff.mpr fun e he => ?_
  simp [h e he]

theorem lifecycle_one (h : e.isLifecycle = true) (hkey : e.serial = key) :
    lifecycle key [e] = [e] := by
  simp [lifecycle, h, hkey]

theorem lifecycle_of_quiet (h : e.isLifecycle = false) : lifecycle key [e] = [] := by
  simp [lifecycle, h]

/-- A key whose comings and goings alternate is seen after a coming, and only then. -/
theorem seen_iff_of_alternates (h : Alternates (lifecycle key events)) :
    (Sightings.ofEvents events).find? key ≠ none ↔ (lifecycle key events).length % 2 = 1 := by
  induction events using List.reverseRecOn with
  | nil => simp [Sightings.ofEvents, lifecycle]
  | append_singleton events e ih =>
      rw [Sightings.ofEvents_concat]
      rw [lifecycle_append] at h ⊢
      by_cases hkey : e.serial = key
      · subst hkey
        cases hlifecycle : e.isLifecycle with
        | true =>
            rw [lifecycle_one hlifecycle rfl, alternates_concat] at h
            rw [lifecycle_one hlifecycle rfl, List.length_append, List.length_singleton]
            cases e with
            | added serial model =>
                have heven := h.2.mp rfl
                refine iff_of_true (Option.ne_none_iff_exists'.mpr ⟨⟨model, none⟩, ?_⟩) (by omega)
                exact Dictionary.find?_insert_self _ _ _
            | removed serial =>
                have hodd := mt h.2.mpr Bool.false_ne_true
                refine iff_of_false (not_not_intro ?_) (by omega)
                exact (Dictionary.find?_erase _ _ _).trans (if_pos rfl)
            | changed => cases hlifecycle
            | unknown => cases hlifecycle
        | false =>
            rw [lifecycle_of_quiet hlifecycle, List.append_nil] at h ⊢
            rw [← ih h]
            cases e with
            | added => cases hlifecycle
            | removed => cases hlifecycle
            | changed serial d =>
                rw [Event.serial, Sightings.find?_note_changed]
                simp
            | unknown => rfl
      · have hother : lifecycle key [e] = [] :=
          lifecycle_of_ne fun other hother => List.mem_singleton.mp hother ▸ hkey
        rw [hother, List.append_nil] at h ⊢
        rw [Sightings.find?_note_of_ne hkey, ih h]

end Event

/-! ## Steps -/

namespace Registry

variable {key : String} {initial : List Configuration} {ops : List Operation}

/-- Whatever is removed under a key can be read, so it was announced when it came. -/
def RemovesOnlyAnnounced (key : String) (initial : List Configuration) (ops : List Operation) :
    Prop :=
  ∀ before serial later d, ops = before ++ .remove serial :: later →
    Serial.normalize serial = key → (ofRun initial before).device? serial = some d →
    d.isDiscoverable = true

theorem removesOnlyAnnounced_concat {op : Operation} :
    RemovesOnlyAnnounced key initial (ops ++ [op]) ↔
      RemovesOnlyAnnounced key initial ops ∧
      ∀ serial d, op = .remove serial → Serial.normalize serial = key →
        (ofRun initial ops).device? serial = some d → d.isDiscoverable = true := by
  constructor
  · intro h
    refine ⟨fun before serial later d hops => h before serial (later ++ [op]) d ?_, ?_⟩
    · exact concat_eq_split_iff.mpr (.inr ⟨later, rfl, hops⟩)
    rintro serial d rfl
    exact h ops serial [] d rfl
  · rintro ⟨hops, hlast⟩ before serial later d hsplit
    rcases concat_eq_split_iff.mp hsplit with ⟨rfl, hop, -⟩ | ⟨rest, -, hrun⟩
    · exact hlast serial d hop
    · exact hops before serial rest d hrun

theorem removesOnlyAnnounced_of_keep {op : Operation}
    (hkeep : ∀ serial, op = .remove serial → Serial.normalize serial ≠ key) :
    RemovesOnlyAnnounced key initial (ops ++ [op]) ↔ RemovesOnlyAnnounced key initial ops := by
  rw [removesOnlyAnnounced_concat]
  exact and_iff_left fun serial _ hop hs => absurd hs (hkeep serial hop)

theorem removesOnlyAnnounced_remove (serial : String) :
    RemovesOnlyAnnounced (Serial.normalize serial) initial (ops ++ [.remove serial]) ↔
      RemovesOnlyAnnounced (Serial.normalize serial) initial ops ∧
      ∀ d, (ofRun initial ops).devices.find? (Serial.normalize serial) = some d →
        d.isDiscoverable = true := by
  rw [removesOnlyAnnounced_concat]
  refine and_congr_right fun _ => ⟨fun h d hd => ?_, fun h other d hother _ hd => ?_⟩
  · rw [← device?] at hd
    exact h serial d rfl rfl hd
  · obtain rfl := Operation.remove.inj hother
    rw [device?] at hd
    exact h d hd

/-- A packet brings nothing but the coming of a device that was not seen. -/
theorem lifecycle_dispatch (key : String) (initial : List Configuration) (ops : List Operation)
    (p : Packet) :
    Event.lifecycle key ((ofRun initial ops).dispatch p).events = [] ∨
    ∃ e : Event, e.isAdded = true ∧
      Event.lifecycle key ((ofRun initial ops).dispatch p).events = [e] ∧
      (Sightings.ofEvents (told initial ops)).find? key = none := by
  by_cases hp : Serial.normalize p.serial = key
  · subst hp
    have hquiet : ∀ (b : Bool) (d : Device), Event.lifecycle (Serial.normalize p.serial)
        (if b then [.changed (Serial.normalize p.serial) d] else []) = [] := by
      intro b d
      cases b with
      | true => exact Event.lifecycle_of_quiet rfl
      | false => rfl
    rcases (Tracks.ofRun _ initial ops).packet_cases with ⟨-, -, hr⟩ | ⟨config, hlife, -, hr⟩ |
      ⟨life, -, -, hr⟩
    · rw [dispatch_of_unknown hr]
      exact .inl (Event.lifecycle_of_quiet rfl)
    · have hunseen := ((Mirrors.ofRun _ initial ops).unseen hlife).seen
      rw [dispatch_of_resolved hr, Event.lifecycle_append, hquiet, List.append_nil, announcement]
      split
      · exact .inr ⟨_, rfl, Event.lifecycle_one rfl rfl, hunseen⟩
      · exact .inl rfl
    · rw [dispatch_of_resolved hr, announcement_of_held, List.nil_append]
      exact .inl (hquiet _ _)
  · exact .inl (Event.lifecycle_of_ne fun e he => serial_of_mem_dispatch he ▸ hp)

/-- Comings and goings under a key alternate in a run exactly if the run removes nothing under the
key that was not announced. -/
theorem alternates_lifecycle_iff (key : String) (initial : List Configuration)
    (ops : List Operation) :
    Alternates (Event.lifecycle key (told initial ops)) ↔ RemovesOnlyAnnounced key initial ops := by
  induction ops using List.reverseRecOn with
  | nil =>
      refine iff_of_true ?_ ?_
      · intro i e hi
        cases hi
      · intro before serial later d hops
        exact absurd hops (by simp)
  | append_singleton ops op ih =>
      rw [told_concat, Event.lifecycle_append]
      cases op with
      | packet p =>
          have hkeep : ∀ serial, Operation.packet p = .remove serial →
              Serial.normalize serial ≠ key := by
            intro serial hop
            cases hop
          simp only [step]
          rw [removesOnlyAnnounced_of_keep hkeep, ← ih]
          rcases lifecycle_dispatch key initial ops p with h | ⟨e, hadded, h, hunseen⟩
          · rw [h, List.append_nil]
          · -- what is announced was not seen before, so the last place was that of a going
            rw [h, alternates_concat]
            refine and_iff_left_of_imp fun halternates => iff_of_true hadded ?_
            have hseen := Event.seen_iff_of_alternates halternates
            have hodd := mt hseen.mpr (not_not_intro hunseen)
            omega
      | remove serial =>
          simp only [step]
          by_cases hs : Serial.normalize serial = key
          · subst hs
            rw [removesOnlyAnnounced_remove, ← ih]
            cases hd : (ofRun initial ops).devices.find? (Serial.normalize serial) with
            | none =>
                rw [remove_of_not_held hd]
                simp [Event.lifecycle]
            | some d =>
                have hone : Event.lifecycle (Serial.normalize serial)
                    [.removed (Serial.normalize serial)] = [.removed (Serial.normalize serial)] :=
                  Event.lifecycle_one rfl rfl
                -- a going stands at the right place if the device is seen, thus if it can be read
                rw [remove_of_held hd, hone, alternates_concat]
                refine and_congr_right fun halternates => ?_
                have hseen := Event.seen_iff_of_alternates halternates
                rw [Sightings.seen_iff, hd] at hseen
                simp only [Event.isAdded, Bool.false_eq_true, false_iff, Option.some.injEq,
                  forall_eq', exists_eq_left'] at hseen ⊢
                rw [hseen]
                omega
          · have hkeep : ∀ other, Operation.remove serial = .remove other →
                Serial.normalize other ≠ key := by
              intro other hop
              cases hop
              exact hs
            have hother : Event.lifecycle key ((ofRun initial ops).remove serial).2 = [] :=
              Event.lifecycle_of_ne fun e he => serial_of_mem_remove he ▸ hs
            rw [removesOnlyAnnounced_of_keep hkeep, ← ih, hother, List.append_nil]
      | configure configurations =>
          have hkeep : ∀ serial, Operation.configure configurations = .remove serial →
              Serial.normalize serial ≠ key := by
            intro serial hop
            cases hop
          rw [removesOnlyAnnounced_of_keep hkeep, ← ih]
          simp [step, Event.lifecycle]

/-- A model whose frames cannot be read is reported as removed though nobody was told of it. -/
theorem not_alternates_of_unannounced :
    ¬ Alternates (Event.lifecycle "1021" (told [.fromAddress ⟨1, 21⟩ .ms24]
      [.packet (.fromAddress .mr0410 .statusOfChannels ⟨1, 21⟩ [4, 1, 0, 0, 0]),
        .remove "1021"])) := by
  have hlifecycle : Event.lifecycle "1021" (told [.fromAddress ⟨1, 21⟩ .ms24]
      [.packet (.fromAddress .mr0410 .statusOfChannels ⟨1, 21⟩ [4, 1, 0, 0, 0]),
        .remove "1021"]) = [.removed "1021"] := by
    decide +kernel
  rw [hlifecycle]
  intro h
  exact Bool.false_ne_true ((h 0 (.removed "1021") rfl).mpr rfl)

end Registry
end Fieldbus
