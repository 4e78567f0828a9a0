import Fieldbus.Proofs.Registry.FirstPacket
import Fieldbus.Proofs.Registry.History
import Mathlib.Logic.Equiv.Basic
import Mathlib.Logic.Relation

/-!
# The order of configurations

Of the configurations of one serial number only the first counts. So their order matters among
those of one number alone, and a configuration that comes after another one of its number, or whose
number is blank, might as well be missing. Neither the devices that are made nor any run of a
registry shows such a difference.
-/
namespace Fieldbus

namespace Configuration

variable {a b before after : List Configuration} {extra : Configuration} {key : String}

/-! ## Edits without effect -/

/-- A configuration that does not count after others: its serial number is blank, or one of them has
the same. -/
def Idle (before : List Configuration) (config : Configuration) : Prop :=
  Serial.isBlank config.serial = true ∨
    ∃ earlier ∈ before, Serial.normalize earlier.serial = Serial.normalize config.serial

/-- The entries of a list change places, but no two of one serial number pass each other. -/
structure Reordering (a b : List Configuration) where
  place : Fin a.length ≃ Fin b.length
  moved : ∀ i, b.get (place i) = a.get i
  ordered : ∀ i j, i < j →
    Serial.normalize (a.get i).serial = Serial.normalize (a.get j).serial → place i < place j

/-- The ways to edit a list of configurations that leave the first of each serial number alone. -/
inductive Edit : List Configuration → List Configuration → Prop
  | reorder {a b : List Configuration} (h : Reordering a b) : Edit a b
  | insert (before after : List Configuration) {extra : Configuration} (h : Idle before extra) :
      Edit (before ++ after) (before ++ extra :: after)
  | delete (before after : List Configuration) {extra : Configuration} (h : Idle before extra) :
      Edit (before ++ extra :: after) (before ++ after)

/-! ## The first configuration of each serial number -/

/-- Every serial number that is not blank leads to the same configuration in both lists. -/
def SameFirsts (a b : List Configuration) : Prop :=
  ∀ key, key ≠ "" →
    (a.find? fun config => Serial.normalize config.serial = key)
      = b.find? fun config => Serial.normalize config.serial = key

theorem Reordering.find?_eq (h : Reordering a b) (key : String) :
    (a.find? fun config => Serial.normalize config.serial = key)
      = b.find? fun config => Serial.normalize config.serial = key := by
  cases hfind : a.find? fun config => Serial.normalize config.serial = key with
  | none =>
      rw [List.find?_eq_none] at hfind
      rw [eq_comm, List.find?_eq_none]
      intro config hconfig
      obtain ⟨j, rfl⟩ := List.mem_iff_get.mp hconfig
      obtain ⟨i, rfl⟩ := h.place.surjective j
      rw [h.moved]
      exact hfind _ (List.get_mem a i)
  | some first =>
      obtain ⟨hkey, i, hi, rfl, hearlier⟩ := List.find?_eq_some_iff_getElem.mp hfind
      rw [decide_eq_true_eq] at hkey
      rw [eq_comm, List.find?_eq_some_iff_getElem]
      refine ⟨decide_eq_true hkey, h.place ⟨i, hi⟩, (h.place ⟨i, hi⟩).isLt, h.moved ⟨i, hi⟩,
        fun j hj => ?_⟩
      obtain ⟨k, hk⟩ := h.place.surjective ⟨j, hj.trans (h.place ⟨i, hi⟩).isLt⟩
      obtain rfl : (h.place k).val = j := congrArg Fin.val hk
      -- an entry of the key that now comes first would have passed the one that came first before
      suffices hne : Serial.normalize (a.get k).serial ≠ key by
        rw [← List.get_eq_getElem, h.moved]
        simpa using hne
      intro hsame
      rcases Nat.lt_trichotomy k i with hlt | heq | hgt
      · have hother := hearlier k hlt
        rw [Bool.not_eq_true', decide_eq_false_iff_not] at hother
        exact hother hsame
      · obtain rfl : k = ⟨i, hi⟩ := Fin.ext heq
        exact Nat.lt_irrefl _ hj
      · have hpassed := h.ordered ⟨i, hi⟩ k hgt (hkey.trans hsame.symm)
        exact Nat.lt_asymm hj hpassed

theorem find?_append_cons_of_idle (h : Idle before extra) (hne : key ≠ "")
    (after : List Configuration) :
    ((before ++ extra :: after).find? fun config => Serial.normalize config.serial = key)
      = (before ++ after).find? fun config => Serial.normalize config.serial = key := by
  rw [List.find?_append, List.find?_append]
  by_cases hextra : Serial.normalize extra.serial = key
  · -- the extra entry has the key, so one of the same key comes before
    have hearlier : ∃ earlier ∈ before, Serial.normalize earlier.serial = key := by
      rcases h with hblank | ⟨earlier, hmem, hsame⟩
      · exact absurd (hextra.symm.trans (Serial.normalize_of_isBlank hblank)) hne
      · exact ⟨earlier, hmem, hsame.trans hextra⟩
    have hfound : (before.find? fun config => Serial.normalize config.serial = key).isSome := by
      simpa using hearlier
    rw [Option.or_of_isSome hfound, Option.or_of_isSome hfound]
  · rw [List.find?_cons_of_neg (by simpa using hextra)]

theorem Edit.sameFirsts (h : Edit a b) : SameFirsts a b := by
  cases h with
  | reorder h => exact fun key _ => h.find?_eq key
  | insert before after h => exact fun key hne => (find?_append_cons_of_idle h hne after).symm
  | delete before after h => exact fun key hne => find?_append_cons_of_idle h hne after

theorem sameFirsts_of_edits (h : Relation.ReflTransGen Edit a b) : SameFirsts a b := by
  induction h with
  | refl => exact fun _ _ => rfl
  | tail _ hedit ih => exact fun key hne => (ih key hne).trans (hedit.sameFirsts key hne)

theorem SameFirsts.forSerial?_eq (h : SameFirsts a b) (serial : Option String) :
    Device.forSerial? serial a = Device.forSerial? serial b := by
  cases serial with
  | none => rfl
  | some serial =>
      by_cases hne : Serial.normalize serial = ""
      · rw [Device.forSerial?_of_blank hne, Device.forSerial?_of_blank hne]
      · have hnorm := Serial.normalize_normalize serial
        rw [← Device.forSerial?_normalize, ← Device.forSerial?_normalize serial b,
          Device.forSerial?_of_normalized hne hnorm, Device.forSerial?_of_normalized hne hnorm,
          h _ hne]

end Configuration

/-! ## Runs -/

/-- What an operation answers, and what is told of it. A removal answers whether there was a device
to drop. -/
inductive Observation where
  | packet (outcome : Outcome) (events : List Event) (diagnostic : Option Diagnostic)
  | removal (held : Bool) (events : List Event)
  | configured

namespace Registry

def observe (r : Registry) : Operation → Observation
  | .packet p => .packet (r.dispatch p).outcome (r.dispatch p).events (r.dispatch p).diagnostic
  | .remove serial => .removal (!(r.remove serial).2.isEmpty) (r.remove serial).2
  | .configure _ => .configured

/-- What the operations of a run show, one after the other. -/
def observed (r : Registry) : List Operation → List Observation
  | [] => []
  | op :: ops => r.observe op :: (r.step op).1.observed ops

/-- Two registries that hold the same devices and would make the same. -/
structure Alike (r s : Registry) : Prop where
  devices : r.devices = s.devices
  configurations : Configuration.SameFirsts r.configurations s.configurations

namespace Alike

variable {r s : Registry}

theorem resolve?_eq (h : Alike r s) (serial : String) :
    r.resolve? (Serial.normalize serial) = s.resolve? (Serial.normalize serial) := by
  rw [resolve?, resolve?, h.devices, h.configurations.forSerial?_eq]

theorem dispatch (h : Alike r s) (p : Packet) :
    r.observe (.packet p) = s.observe (.packet p) ∧
      Alike (r.dispatch p).registry (s.dispatch p).registry := by
  have hresolve := h.resolve?_eq p.serial
  cases hs : s.resolve? (Serial.normalize p.serial) with
  | none =>
      rw [hs] at hresolve
      rw [observe, observe, dispatch_of_unknown hresolve, dispatch_of_unknown hs]
      exact ⟨rfl, h⟩
  | some found =>
      rw [hs] at hresolve
      rw [observe, observe, dispatch_of_resolved hresolve, dispatch_of_resolved hs, h.devices]
      exact ⟨rfl, rfl, h.configurations⟩

theorem remove (h : Alike r s) (serial : String) :
    (r.remove serial).2 = (s.remove serial).2 ∧
      Alike (r.remove serial).1 (s.remove serial).1 := by
  cases hs : s.devices.find? (Serial.normalize serial) with
  | none =>
      rw [remove_of_not_held (h.devices ▸ hs), remove_of_not_held hs]
      exact ⟨rfl, h⟩
  | some d =>
      rw [remove_of_held (h.devices ▸ hs), remove_of_held hs, h.devices]
      exact ⟨rfl, rfl, h.configurations⟩

theorem step (h : Alike r s) (op : Operation) :
    r.observe op = s.observe op ∧ Alike (r.step op).1 (s.step op).1 := by
  cases op with
  | packet p => exact h.dispatch p
  | remove serial =>
      obtain ⟨hevents, hafter⟩ := h.remove serial
      rw [observe, observe, hevents]
      exact ⟨rfl, hafter⟩
  | configure configs => exact ⟨rfl, h.devices, fun _ _ => rfl⟩

theorem run (h : Alike r s) (ops : List Operation) :
    r.observed ops = s.observed ops ∧ Alike (r.after ops) (s.after ops) := by
  induction ops generalizing r s with
  | nil => exact ⟨rfl, h⟩
  | cons op ops ih =>
      obtain ⟨hop, hafter⟩ := h.step op
      obtain ⟨hrest, hend⟩ := ih hafter
      rw [observed, observed, hop, hrest]
      exact ⟨rfl, hend⟩

end Alike
end Registry

/-! ## The main statement -/

/-- Edits that leave the first configuration of each serial number alone cannot be noticed: the same
devices are made of serial numbers and packets, and from the same devices on, every run shows the
same and holds the same. -/
theorem Configuration.edits_change_nothing {a b : List Configuration}
    (h : Relation.ReflTransGen Edit a b) :
    (∀ serial : Option String, Device.forSerial? serial a = Device.forSerial? serial b) ∧
    (∀ p : Packet, Device.forPacket? p a = Device.forPacket? p b) ∧
    (∀ (devices : Dictionary Device) (ops : List Operation),
      (Registry.mk a devices).observed ops = (Registry.mk b devices).observed ops ∧
      ((Registry.mk a devices).after ops).devices = ((Registry.mk b devices).after ops).devices) := by
  have hfirsts := sameFirsts_of_edits h
  refine ⟨hfirsts.forSerial?_eq, fun p => ?_, fun devices ops => ?_⟩
  · rw [Device.forPacket?, Device.forPacket?, hfirsts.forSerial?_eq]
  · have hstart : Registry.Alike ⟨a, devices⟩ ⟨b, devices⟩ := ⟨rfl, hfirsts⟩
    obtain ⟨hobserved, hafter⟩ := hstart.run ops
    exact ⟨hobserved, hafter.devices⟩

/-- Two configurations change places, one without a serial number is put in front of them, and one
behind that differs from the first only in padding and case. -/
theorem Configuration.edits_change_nothing_padded :
    let relays := (Configuration.fromAddress ⟨1, 1⟩ .mr0810).withSerial " AB12 "
    let dimmer := Configuration.fromAddress ⟨1, 2⟩ .mdt04015
    let heating := (Configuration.fromAddress ⟨1, 3⟩ .mfh06).withSerial "ab12"
    let nameless := (Configuration.fromAddress ⟨1, 4⟩ .mr0810).withSerial "\t "
    Relation.ReflTransGen Edit [relays, dimmer] [nameless, dimmer, relays, heating] ∧
      Device.forSerial? (some "Ab12") [nameless, dimmer, relays, heating]
        = Device.forSerial? (some "Ab12") [relays, dimmer] ∧
      ∀ ops, (Registry.ofConfigurations [relays, dimmer]).observed ops
        = (Registry.ofConfigurations [nameless, dimmer, relays, heating]).observed ops := by
  intro relays dimmer heating nameless
  have hreorder : Edit [relays, dimmer] [dimmer, relays] :=
    .reorder ⟨Equiv.swap (0 : Fin 2) 1, Fin.forall_fin_two.mpr ⟨rfl, rfl⟩, by decide +kernel⟩
  have hnameless : Edit [dimmer, relays] [nameless, dimmer, relays] :=
    .insert [] [dimmer, relays] (.inl (by decide +kernel))
  have hheating : Edit [nameless, dimmer, relays] [nameless, dimmer, relays, heating] :=
    .insert [nameless, dimmer, relays] [] (.inr ⟨relays, by simp, by decide +kernel⟩)
  have hedits := ((Relation.ReflTransGen.single hreorder).tail hnameless).tail hheating
  obtain ⟨hserial, -, hruns⟩ := edits_change_nothing hedits
  exact ⟨hedits, (hserial _).symm, fun ops => (hruns .empty ops).1⟩

end Fieldbus
